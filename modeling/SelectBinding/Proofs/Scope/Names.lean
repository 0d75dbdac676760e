import SelectBinding.Proofs.Outcome
import SelectBinding.Scope

/-!
When a name stands for something, and for what.

A bare name stands for a field of the first table that has one, and no other table may have one. A
qualified name needs a qualifier that is not hidden by aliases and under which one position is
registered.
-/

namespace SelectBinding

namespace Scope

/-! ### Names without a qualifier -/

/-- Once a table with the field is found, every other table with such a field has to be the same. -/
lemma bindFieldFrom_some {name : String} {first : Nat} {table : Table} {field : Field}
    {sources : List Source} {position : Nat} {b : Binding} :
    bindFieldFrom name (some (first, table, field)) position sources = .ok b ↔
      b = .field first field.name ∧
        ∀ s ∈ sources, (s.table.field? name).isSome → table.same s.table = true := by
  induction sources generalizing position with
  | nil =>
    simp only [bindFieldFrom, Except.ok.injEq, List.not_mem_nil, false_implies, implies_true,
      and_true]
    exact eq_comm
  | cons source rest ih =>
    cases hf : source.table.field? name with
    | none => simp [bindFieldFrom, hf, ih]
    | some found =>
      cases hs : table.same source.table <;> simp [bindFieldFrom, hf, hs, ih]

/-- The tables that have a field of a name are all one table, and the one at `p` is the first. -/
structure FirstOwner (sources : List Source) (name : String) (p : Nat) (source : Source)
    (field : Field) : Prop where
  at_ : sources[p]? = some source
  has : source.table.field? name = some field
  before : ∀ i < p, ∀ s, sources[i]? = some s → s.table.field? name = none
  only : ∀ s ∈ sources, (s.table.field? name).isSome → source.table.same s.table = true

lemma firstOwner_cons_none {sources : List Source} {name : String} {s : Source} {p : Nat}
    {source : Source} {field : Field} (hs : s.table.field? name = none) :
    FirstOwner (s :: sources) name (p + 1) source field ↔
      FirstOwner sources name p source field := by
  constructor
  · rintro ⟨hat, hhas, hbefore, honly⟩
    exact ⟨by simpa using hat, hhas, fun i hi s' h' => hbefore (i + 1) (by omega) s' (by simpa),
      fun s' h' => honly s' (by simp [h'])⟩
  · rintro ⟨hat, hhas, hbefore, honly⟩
    refine ⟨by simpa using hat, hhas, fun i hi s' h' => ?_, fun s' h' hf => ?_⟩
    · cases i with
      | zero =>
        obtain rfl : s = s' := by simpa using h'
        exact hs
      | succ i => exact hbefore i (by omega) s' (by simpa using h')
    · rcases List.mem_cons.mp h' with rfl | h'
      · simp [hs] at hf
      · exact honly s' h' hf

lemma firstOwner_cons_some {sources : List Source} {name : String} {s : Source} {p : Nat}
    {source : Source} {field found : Field} (hs : s.table.field? name = some found) :
    FirstOwner (s :: sources) name p source field ↔ p = 0 ∧ source = s ∧ field = found ∧
      ∀ s' ∈ sources, (s'.table.field? name).isSome → s.table.same s'.table = true := by
  constructor
  · rintro ⟨hat, hhas, hbefore, honly⟩
    cases p with
    | zero =>
      obtain rfl : s = source := by simpa using hat
      exact ⟨rfl, rfl, Option.some.inj (hhas.symm.trans hs), fun s' h' => honly s' (by simp [h'])⟩
    | succ p =>
      have := hbefore 0 (by omega) s (by simp)
      simp [hs] at this
  · rintro ⟨rfl, rfl, rfl, honly⟩
    refine ⟨by simp, hs, by simp, fun s' h' hf => ?_⟩
    rcases List.mem_cons.mp h' with rfl | h'
    · exact Table.same_refl _
    · exact honly s' h' hf

lemma bindFieldFrom_none {name : String} {sources : List Source} {position : Nat} {b : Binding} :
    bindFieldFrom name none position sources = .ok b ↔
      ∃ p source field, FirstOwner sources name p source field ∧
        b = .field (position + p) field.name := by
  induction sources generalizing position with
  | nil =>
    constructor
    · simp [bindFieldFrom]
    · rintro ⟨p, source, field, h, -⟩
      simpa using h.at_
  | cons s rest ih =>
    cases hs : s.table.field? name with
    | none =>
      simp only [bindFieldFrom, hs, ih]
      constructor
      · rintro ⟨p, source, field, h, rfl⟩
        exact ⟨p + 1, source, field, (firstOwner_cons_none hs).mpr h, by congr 1; omega⟩
      · rintro ⟨p, source, field, h, rfl⟩
        cases p with
        | zero =>
          obtain rfl : s = source := by simpa using h.at_
          exact absurd h.has (by simp [hs])
        | succ p =>
          exact ⟨p, source, field, (firstOwner_cons_none hs).mp h, by congr 1; omega⟩
    | some found =>
      simp only [bindFieldFrom, hs, bindFieldFrom_some, firstOwner_cons_some hs]
      constructor
      · rintro ⟨rfl, honly⟩
        exact ⟨0, s, found, ⟨rfl, rfl, rfl, honly⟩, rfl⟩
      · rintro ⟨p, source, field, ⟨rfl, rfl, rfl, honly⟩, rfl⟩
        exact ⟨rfl, honly⟩

/-- **Names without a qualifier.** A name stands for a field of its first owner. -/
lemma bindField_ok_iff {scope : Scope} {name : String} {b : Binding} :
    scope.bindField name = .ok b ↔
      ∃ p source field, FirstOwner scope.sources name p source field ∧
        b = .field p field.name := by
  simp [bindField, bindFieldFrom_none]

/-! ### Names after a qualifier -/

lemma bindFieldAt_ok_iff {scope : Scope} {table name : String} {p : Nat} {b : Binding} :
    scope.bindFieldAt table name p = .ok b ↔
      ∃ source field, scope.sources[p]? = some source ∧ source.table.field? name = some field ∧
        b = .field p field.name := by
  unfold bindFieldAt
  split
  · rename_i field h
    obtain ⟨source, hsource, hfield⟩ := Option.bind_eq_some_iff.mp h
    constructor
    · rintro h
      exact ⟨source, field, hsource, hfield, (Except.ok.inj h).symm⟩
    · rintro ⟨source', field', hsource', hfield', rfl⟩
      obtain rfl := Option.some.inj (hsource.symm.trans hsource')
      obtain rfl := Option.some.inj (hfield.symm.trans hfield')
      rfl
  · rename_i h
    constructor
    · rintro h
      simp at h
    · rintro ⟨source, field, hsource, hfield, -⟩
      simp [hsource, hfield] at h

/-- A qualifier stands for the one position that is registered under it. -/
lemma bindByKey_ok_iff {scope : Scope} {table name : String} {b : Binding} :
    scope.bindByKey table name = .ok b ↔
      ∃ p, scope.positionsFor table = [p] ∧
        if name = "*" then b = .tableAsterisk p else scope.bindFieldAt table name p = .ok b := by
  unfold bindByKey
  split
  · rename_i h
    split <;> simp [h]
  · rename_i p h
    split <;> simp [*, eq_comm]
  · rename_i h h'
    simp only [reduceCtorEq, false_iff, not_exists, not_and]
    intro p hp
    exact absurd hp (h' p)

/-- What a qualified name stands for is in the one table with that key. -/
lemma position?_of_bindByKey {scope : Scope} {table name : String} {p : Nat} {b : Binding}
    (h : scope.bindByKey table name = .ok b) (hp : scope.positionsFor table = [p]) :
    b.position? = some p := by
  obtain ⟨p', hp', h⟩ := bindByKey_ok_iff.mp h
  obtain rfl : p = p' := by simpa [hp] using hp'
  split at h
  · rw [h]
    rfl
  · obtain ⟨source, field, -, -, rfl⟩ := bindFieldAt_ok_iff.mp h
    rfl

/-- **Names after a qualifier.** A qualified name stands for something in the one table that is
registered under the qualifier, unless aliases hide the qualifier. -/
lemma bindQualified_ok_iff {scope : Scope} {table name : String} {b : Binding} :
    scope.bindQualified table name = .ok b ↔
      scope.coveringAlias? table = none ∧ scope.bindByKey table name = .ok b := by
  unfold bindQualified
  split <;> simp [*]

/-! ### Names by their parts -/

lemma bindParts_bare {scope : Scope} {name : String} (hname : name ≠ "*") :
    scope.bindParts [name] = scope.bindField name := by
  unfold bindParts
  split <;> simp_all

lemma bindParts_qualified {scope : Scope} {key name : String} :
    scope.bindParts [key, name] = scope.bindQualified key name := by
  unfold bindParts
  split <;> simp_all

/-- A name of more parts than two, or of none, stands for nothing. -/
lemma bindParts_other {scope : Scope} {parts : List String} (h : parts.length ≠ 1)
    (h' : parts.length ≠ 2) :
    scope.bindParts parts =
      .error { kind := .reference, message := "Field not found",
               details := some ("Invalid field reference \"" ++ Name.dotted parts ++ "\"") } := by
  unfold bindParts
  split <;> simp_all

lemma bind_ok_iff {scope : Scope} {v : Variable} {b : Binding} :
    scope.bind v = .ok b ↔ scope.bindParts v.parts = .ok b :=
  Except.mapError_eq_ok_iff

end Scope

end SelectBinding
