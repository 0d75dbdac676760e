import SelectBinding.Proofs.Query.Consistency
import SelectBinding.Proofs.Scope.Calling

/-!
What names stand for once a table is gone.

Taking a table out of a list moves the tables after it by one. A name that stood for something in
another table stands for the same thing afterwards: the first owner of a field stays the first one,
a key of one table stays a key of one table, and no alias comes to hide it.
-/

namespace SelectBinding

namespace Scope

/-! ### Positions after a removal -/

/-- What is left of a list stands at the position that its old position becomes. -/
lemma getElem?_eraseIdx_iff {α : Type} {l : List α} {removed i : Nat} {a : α} :
    (l.eraseIdx removed)[i]? = some a ↔
      ∃ p, p ≠ removed ∧ l[p]? = some a ∧ Query.positionWithout removed p = i := by
  constructor
  · intro h
    rw [List.getElem?_eraseIdx] at h
    split at h
    · exact ⟨i, by omega, h, by simp only [Query.positionWithout]; split <;> omega⟩
    · exact ⟨i + 1, by omega, h, by simp only [Query.positionWithout]; split <;> omega⟩
  · rintro ⟨p, hp, hget, rfl⟩
    rwa [Query.eraseIdx_positionWithout l hp]

/-- The tables that are left keep their order. -/
lemma lt_of_positionWithout_lt {removed p i : Nat}
    (h : Query.positionWithout removed i < Query.positionWithout removed p) : i < p := by
  simp only [Query.positionWithout] at h
  split at h <;> split at h <;> omega

variable {sources : List Source} {removed p : Nat} {name key : String} {source : Source}
  {field : Field}

/-! ### Names without a qualifier -/

/-- The first owner of a field stays the first one. -/
lemma FirstOwner.without (h : FirstOwner sources name p source field) (hp : p ≠ removed) :
    FirstOwner (sources.eraseIdx removed) name (Query.positionWithout removed p) source field where
  at_ := by rw [Query.eraseIdx_positionWithout sources hp, h.at_]
  has := h.has
  before i hi s hs := by
    obtain ⟨j, -, hget, rfl⟩ := getElem?_eraseIdx_iff.mp hs
    exact h.before j (lt_of_positionWithout_lt hi) s hget
  only s hs := h.only s (List.mem_of_mem_eraseIdx hs)

/-! ### Names after a qualifier -/

/-- A key of one table stays a key of one table. -/
lemma positionsFor_without (h : (ofSources sources).positionsFor key = [p]) (hp : p ≠ removed) :
    (ofSources (sources.eraseIdx removed)).positionsFor key =
      [Query.positionWithout removed p] := by
  obtain ⟨⟨source, hget, hkey⟩, honly⟩ := positionsFor_ofSources_iff.mp h
  refine positionsFor_ofSources_iff.mpr
    ⟨⟨source, by rw [Query.eraseIdx_positionWithout sources hp, hget], hkey⟩, ?_⟩
  intro i other hi hother
  obtain ⟨j, -, hj, rfl⟩ := getElem?_eraseIdx_iff.mp hi
  rw [honly j other hj hother]

/-- A key of one table that no alias hides is not hidden once another table is gone. -/
lemma coveringAlias?_without (h : (ofSources sources).positionsFor key = [p]) (hp : p ≠ removed)
    (hfree : (ofSources sources).coveringAlias? key = none) :
    (ofSources (sources.eraseIdx removed)).coveringAlias? key = none := by
  obtain ⟨⟨source, hget, hkey⟩, honly⟩ := positionsFor_ofSources_iff.mp h
  obtain ⟨⟨source', hget', hkey'⟩, honly'⟩ :=
    positionsFor_ofSources_iff.mp (positionsFor_without h hp)
  obtain rfl : source = source' := by
    rw [Query.eraseIdx_positionWithout sources hp, hget] at hget'
    exact Option.some.inj hget'
  rw [coveringAlias?_eq_none_iff_of_unique hget' hkey' honly']
  rcases (coveringAlias?_eq_none_iff_of_unique hget hkey honly).mp hfree with hown | hnone
  · exact .inl hown
  · exact .inr fun other hother => hnone other (List.mem_of_mem_eraseIdx hother)

/-! ### Names of any form -/

lemma bindField_without {b : Binding} (h : (ofSources sources).bindField name = .ok b)
    (hb : b.position? ≠ some removed) :
    (ofSources (sources.eraseIdx removed)).bindField name =
      .ok (b.mapPosition (Query.positionWithout removed)) := by
  obtain ⟨p, source, field, howner, rfl⟩ := bindField_ok_iff.mp h
  have hp : p ≠ removed := fun heq => hb (congrArg some heq)
  exact bindField_ok_iff.mpr ⟨_, source, field, howner.without hp, rfl⟩

lemma bindQualified_without {b : Binding} (h : (ofSources sources).bindQualified key name = .ok b)
    (hb : b.position? ≠ some removed) :
    (ofSources (sources.eraseIdx removed)).bindQualified key name =
      .ok (b.mapPosition (Query.positionWithout removed)) := by
  obtain ⟨hfree, hkey⟩ := bindQualified_ok_iff.mp h
  obtain ⟨p, hpositions, hrest⟩ := bindByKey_ok_iff.mp hkey
  have hp : p ≠ removed := fun heq => hb (heq ▸ position?_of_bindByKey hkey hpositions)
  refine bindQualified_ok_iff.mpr ⟨coveringAlias?_without hpositions hp hfree,
    bindByKey_ok_iff.mpr ⟨_, positionsFor_without hpositions hp, ?_⟩⟩
  split at hrest
  · rename_i hasterisk
    rw [if_pos hasterisk, hrest]
    rfl
  · rename_i hasterisk
    obtain ⟨source, field, hget, hfield, rfl⟩ := bindFieldAt_ok_iff.mp hrest
    rw [if_neg hasterisk]
    refine bindFieldAt_ok_iff.mpr ⟨source, field, ?_, hfield, rfl⟩
    exact (Query.eraseIdx_positionWithout sources hp).trans hget

/-- **Names.** What a name stands for stays the same when a table goes that it does not stand for,
but for the number of the table. -/
lemma bind_without {v : Variable} {b : Binding} (h : (ofSources sources).bind v = .ok b)
    (hb : b.position? ≠ some removed) :
    (ofSources (sources.eraseIdx removed)).bind v =
      .ok (b.mapPosition (Query.positionWithout removed)) := by
  rw [bind_ok_iff] at h ⊢
  unfold bindParts at h ⊢
  split at h
  · obtain rfl := Except.ok.inj h
    rfl
  · exact bindField_without h hb
  · exact bindQualified_without h hb
  · simp at h

end Scope

end SelectBinding
