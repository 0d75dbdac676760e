import SelectBinding.Proofs.Scope.Calling

/-!
What names stand for once a table goes by a new alias.

A name without a qualifier is looked up in the tables, whatever they are called. A qualifier calls
the one table with that key: the key of the table that takes the alias is gone, and the keys of the
others stay.
-/

namespace SelectBinding

variable {sources sources' : List Source} {p q : Nat} {source : Source}
  {aliasName key name : String}

/-! ### Another alias for a table -/

/-- The tables of a list, the one at `p` under another alias. -/
def underAlias (sources : List Source) (p : Nat) (aliasName : String) : List Source :=
  sources.modify p fun source => { source with aliasName := some aliasName }

lemma map_table_underAlias (sources : List Source) (p : Nat) (aliasName : String) :
    (underAlias sources p aliasName).map Source.table = sources.map Source.table := by
  apply List.ext_getElem?
  intro i
  rw [underAlias, List.getElem?_map, List.getElem?_map, List.getElem?_modify]
  cases sources[i]? with
  | none => rfl
  | some s => by_cases hi : p = i <;> simp [hi]

lemma getElem?_underAlias_ne (hne : q ≠ p) :
    (underAlias sources p aliasName)[q]? = sources[q]? :=
  List.getElem?_modify_ne _ _ hne.symm

lemma key_of_underAlias (h : (underAlias sources p aliasName)[p]? = some source) :
    source.key = aliasName := by
  rw [underAlias, List.getElem?_modify_eq] at h
  obtain ⟨s, -, rfl⟩ := Option.map_eq_some_iff.mp h
  rfl

/-- No table of a list goes by `name`. -/
def Unused (sources : List Source) (name : String) : Prop :=
  ∀ source ∈ sources, Name.agree source.key name = false

/-- A key that some table goes by is not the unused name. -/
lemma Unused.not_agree (h : Unused sources aliasName) (hget : sources[p]? = some source)
    (hkey : Name.agree source.key key = true) : Name.agree aliasName key ≠ true := by
  intro hagree
  have hused := Name.agree_trans hkey (Name.agree_symm hagree)
  simp [h source (List.mem_of_getElem? hget)] at hused

namespace Scope

/-! ### Names without a qualifier -/

lemma bindFieldFrom_congr (h : sources'.map Source.table = sources.map Source.table)
    (found : Option (Nat × Table × Field)) (position : Nat) :
    bindFieldFrom name found position sources' = bindFieldFrom name found position sources := by
  induction sources generalizing sources' found position with
  | nil =>
    obtain rfl := List.map_eq_nil_iff.mp h
    rfl
  | cons s rest ih =>
    obtain ⟨s', rest', rfl, hs, hrest⟩ := List.map_eq_cons_iff.mp h
    simp only [bindFieldFrom, hs, ih hrest]

/-- A name without a qualifier depends on the tables alone. -/
lemma bindField_congr (h : sources'.map Source.table = sources.map Source.table) (name : String) :
    (ofSources sources').bindField name = (ofSources sources).bindField name :=
  bindFieldFrom_congr h none 0

/-! ### Names after a qualifier -/

section Qualified

variable (hunused : Unused sources aliasName)
include hunused

/-- The table no longer goes by the key it had. -/
lemma positionsFor_underAlias_ne (h : (ofSources sources).positionsFor key = [p])
    (h' : (ofSources (underAlias sources p aliasName)).positionsFor key = [q]) : q ≠ p := by
  rintro rfl
  obtain ⟨⟨s, hs, hkey⟩, -⟩ := positionsFor_ofSources_iff.mp h
  obtain ⟨⟨s', hs', hkey'⟩, -⟩ := positionsFor_ofSources_iff.mp h'
  rw [key_of_underAlias hs'] at hkey'
  exact hunused.not_agree hs hkey hkey'

/-- The key of another table stays a key of one table. -/
lemma positionsFor_underAlias (h : (ofSources sources).positionsFor key = [q]) (hne : q ≠ p) :
    (ofSources (underAlias sources p aliasName)).positionsFor key = [q] := by
  obtain ⟨⟨s, hs, hkey⟩, honly⟩ := positionsFor_ofSources_iff.mp h
  refine positionsFor_ofSources_iff.mpr
    ⟨⟨s, by rw [getElem?_underAlias_ne hne, hs], hkey⟩, fun i other hi hother => ?_⟩
  by_cases hip : i = p
  · subst hip
    rw [key_of_underAlias hi] at hother
    exact absurd hother (hunused.not_agree hs hkey)
  · rw [getElem?_underAlias_ne hip] at hi
    exact honly i other hi hother

lemma coveringAlias?_underAlias (h : (ofSources sources).positionsFor key = [q]) (hne : q ≠ p) :
    (ofSources (underAlias sources p aliasName)).coveringAlias? key = none ↔
      (ofSources sources).coveringAlias? key = none := by
  obtain ⟨⟨s, hs, hkey⟩, honly⟩ := positionsFor_ofSources_iff.mp h
  obtain ⟨-, honly'⟩ := positionsFor_ofSources_iff.mp (positionsFor_underAlias hunused h hne)
  have hs' : (underAlias sources p aliasName)[q]? = some s := by
    rw [getElem?_underAlias_ne hne, hs]
  have hnames (sources : List Source) :
      (∀ other ∈ sources, other.table.hasName key = false) ↔
        ∀ table ∈ sources.map Source.table, table.hasName key = false := by
    simp
  -- whether a key of one table is hidden depends on the names of the tables alone
  rw [coveringAlias?_eq_none_iff_of_unique hs' hkey honly',
    coveringAlias?_eq_none_iff_of_unique hs hkey honly]
  refine or_congr_right ?_
  simp only [ofSources, hnames, map_table_underAlias]

/-- A qualified name keeps what it stands for unless that is in the table with the new alias. -/
lemma bindQualified_underAlias_iff {b : Binding}
    (h : (ofSources sources).bindQualified key name = .ok b) :
    (ofSources (underAlias sources p aliasName)).bindQualified key name = .ok b ↔
      b.position? ≠ some p := by
  obtain ⟨hfree, hbyKey⟩ := bindQualified_ok_iff.mp h
  obtain ⟨q, hq, hrest⟩ := bindByKey_ok_iff.mp hbyKey
  rw [bindQualified_ok_iff, position?_of_bindByKey hbyKey hq, ne_eq, Option.some.injEq]
  constructor
  · rintro ⟨-, hbyKey'⟩ rfl
    obtain ⟨q', hq', -⟩ := bindByKey_ok_iff.mp hbyKey'
    refine positionsFor_underAlias_ne hunused hq hq' ?_
    exact Option.some.inj
      ((position?_of_bindByKey hbyKey' hq').symm.trans (position?_of_bindByKey hbyKey hq))
  · intro hne
    refine ⟨(coveringAlias?_underAlias hunused hq hne).mpr hfree, bindByKey_ok_iff.mpr
      ⟨q, positionsFor_underAlias hunused hq hne, ?_⟩⟩
    simpa only [bindFieldAt, ofSources, getElem?_underAlias_ne hne] using hrest

/-- **Names.** When a table takes an alias that no table goes by, a name keeps what it stands for,
unless it is qualified and stands for something in that table. -/
lemma bind_underAlias_iff {v : Variable} {b : Binding} (h : (ofSources sources).bind v = .ok b) :
    (ofSources (underAlias sources p aliasName)).bind v = .ok b ↔
      ¬ (v.parts.length = 2 ∧ b.position? = some p) := by
  rw [bind_ok_iff] at h ⊢
  unfold bindParts at h ⊢
  split at h
  · rename_i hparts
    simpa [hparts] using h
  · rename_i name _ hparts
    rw [bindField_congr (map_table_underAlias sources p aliasName), h]
    simp [hparts]
  · rename_i key name hparts
    rw [bindQualified_underAlias_iff hunused h]
    simp [hparts]
  · simp at h

end Qualified

end Scope

end SelectBinding
