import SelectBinding.Proofs.Build.Sorting
import SelectBinding.Proofs.Build.Targets

/-!
Sorting by a name of many parts.

A name with more parts than a qualifier and a field stands for nothing in a column or in the filter.
A sorting criterion is looked up by its last two parts alone, whatever comes before them. So it is
refused just where these two find no field, and else it sorts as they do.
-/

namespace SelectBinding

/-- Some table that goes by the qualifier declares a field of the name. -/
def Query.Offers (q : Query) (qualifier name : String) : Prop :=
  ∃ source ∈ q.sources, source.answersTo qualifier = true ∧
    (source.table.field? name).isSome = true

namespace SortItem

variable {item : SortItem} {leading : List String} {qualifier name : String}

lemma qualifier?_of_parts (h : item.parts = leading ++ [qualifier, name]) :
    item.qualifier? = some qualifier := by
  simp [qualifier?, h]

lemma fieldName_of_parts (h : item.parts = leading ++ [qualifier, name]) :
    item.fieldName = name := by
  simp [fieldName, h]

end SortItem

namespace Query

variable {q : Query} {item : SortItem} {leading : List String} {qualifier name : String}

lemma findField?_eq_none_iff_not_offers :
    q.findField? (some qualifier) name = none ↔ ¬ q.Offers qualifier name := by
  simp [findField?_eq_none_iff, Offers]

/-- A column that is found for a qualified name is one for a field of a table that has it. -/
lemma columnInfo?_eq_none_of_not_offers (h : q.ColumnsBound) (hnone : ¬ q.Offers qualifier name) :
    q.columnInfo? (some qualifier) name false = none := by
  have hlisted : q.listed? qualifier name = none := by
    refine Option.eq_none_iff_forall_ne_some.mpr fun entry hentry => hnone ?_
    obtain ⟨p, howner⟩ := ownerOf?_of_listed? hentry
    obtain ⟨source, field, hsource, hfield, -⟩ := sortsBy_column h hentry howner true none
    have hanswers : q.answersAt qualifier p = true := by
      simpa [howner] using List.find?_some hentry
    obtain ⟨other, hother, hanswers⟩ := answersAt_iff.mp hanswers
    obtain rfl := Option.some.inj (hsource.symm.trans hother)
    exact ⟨source, List.mem_of_getElem? hsource, hanswers, by rw [hfield]; rfl⟩
  have hinfo := columnInfo?_eq_find? h qualifier name
  rwa [hlisted, Option.bind_none, Option.map_eq_none_iff] at hinfo

/-- Only the last two parts of a criterion are looked up. -/
lemma sortTarget?_last_parts (q : Query) (hparts : item.parts = leading ++ [qualifier, name]) :
    q.sortTarget? item = q.sortTarget? { item with parts := [qualifier, name] } := by
  have hlast : { item with parts := [qualifier, name] }.parts = [] ++ [qualifier, name] := rfl
  simp only [sortTarget?, SortItem.qualifier?_of_parts hparts, SortItem.fieldName_of_parts hparts,
    SortItem.qualifier?_of_parts hlast, SortItem.fieldName_of_parts hlast]

/-- A criterion of several parts sorts by nothing just where its last two parts find no field. -/
lemma sortTarget?_eq_none_iff (h : q.ColumnsBound) (hnumber : item.number = none)
    (hparts : item.parts = leading ++ [qualifier, name]) :
    q.sortTarget? item = none ↔ ¬ q.Offers qualifier name := by
  simp only [sortTarget?, SortItem.qualifier?_of_parts hparts, SortItem.fieldName_of_parts hparts,
    hnumber]
  by_cases hoffers : q.Offers qualifier name
  · refine iff_of_false (fun hnone => ?_) (not_not.mpr hoffers)
    split at hnone
    · cases hnone
    · rw [Option.map_eq_none_iff, findField?_eq_none_iff_not_offers] at hnone
      exact hnone hoffers
  · rw [columnInfo?_eq_none_of_not_offers h hoffers, findField?_eq_none_iff_not_offers.mpr hoffers]
    simp [hoffers]

end Query

namespace Fragments

variable {lookup? : Lookup} {parts : Fragments} {q : Query} {item : SortItem}
  {leading : List String} {qualifier name : String}

/-- **Leading parts.** A variable of three or more parts is refused wherever it stands. A sorting
criterion of the same parts is refused exactly when no table that goes by the last part but one
declares the last one; else it sorts as these two parts do, and those before them do not count. -/
theorem leading_parts_refused_iff (hq : build lookup? parts = .ok q) (hleading : leading ≠ [])
    (hparts : item.parts = leading ++ [qualifier, name]) (hnumber : item.number = none) :
    (∀ scope : Scope, ∃ e, scope.bind ⟨item.parts, item.position, none⟩ = .error e ∧
      e.kind = .reference) ∧
    ((∃ e, addSortItem q item = .error e ∧ e.kind = .reference) ↔ ¬ q.Offers qualifier name) ∧
    (q.Offers qualifier name → ∃ q', addSortItem q item = .ok q' ∧
      addSortItem q { item with parts := [qualifier, name] } = .ok q') := by
  have hnone := Query.sortTarget?_eq_none_iff (build_columnsBound hq) hnumber hparts
  have hsorts (hoffers : q.Offers qualifier name) : ∃ q', addSortItem q item = .ok q' ∧
      addSortItem q { item with parts := [qualifier, name] } = .ok q' := by
    obtain ⟨target, htarget⟩ := Option.ne_none_iff_exists'.mp fun h => hnone.mp h hoffers
    refine ⟨q.addSortKey target item.ascending, ?_, ?_⟩
    · exact Query.addSortItem_ok_iff.mpr ⟨target, htarget, rfl⟩
    · rw [q.sortTarget?_last_parts hparts] at htarget
      exact Query.addSortItem_ok_iff.mpr ⟨target, htarget, rfl⟩
  refine ⟨fun scope => ?_, ⟨?_, fun hoffers => ?_⟩, hsorts⟩
  · obtain ⟨first, more, rfl⟩ := List.exists_cons_of_ne_nil hleading
    have hone : item.parts.length ≠ 1 := by simp [hparts]
    have htwo : item.parts.length ≠ 2 := by simp [hparts]
    exact ⟨_, by rw [Scope.bind, Scope.bindParts_other hone htwo]; rfl, rfl⟩
  · rintro ⟨e, herror, -⟩ hoffers
    obtain ⟨q', hq', -⟩ := hsorts hoffers
    rw [hq'] at herror
    cases herror
  · obtain ⟨e, herror, hkind, -⟩ := Query.addSortItem_error (hnone.mpr hoffers)
    exact ⟨e, herror, hkind⟩

theorem leading_parts_refused_ledger : ∃ q, build ledger ledgerParts = .ok q ∧
    (∀ scope : Scope, ∃ e, scope.bind ⟨["books", "A", "amount"], none, none⟩ = .error e ∧
      e.kind = .reference) ∧
    ((∃ e, addSortItem q { parts := ["books", "A", "amount"] } = .error e ∧
      e.kind = .reference) ↔ ¬ q.Offers "A" "amount") ∧
    (q.Offers "A" "amount" → ∃ q', addSortItem q { parts := ["books", "A", "amount"] } = .ok q' ∧
      addSortItem q { parts := ["A", "amount"] } = .ok q') := by
  obtain ⟨q, hq⟩ := Except.exists_of_isOk (x := build ledger ledgerParts) (by decide +kernel)
  have hparts : ({ parts := ["books", "A", "amount"] } : SortItem).parts =
      ["books"] ++ ["A", "amount"] := rfl
  exact ⟨q, hq, leading_parts_refused_iff hq (List.cons_ne_nil "books" []) hparts rfl⟩

/-- No table is called `books`, and still its field is sorted by. -/
theorem leading_part_ignored : ∃ q q', build ledger ledgerParts = .ok q ∧
    addSortItem q { parts := ["books", "entries", "amount"] } = .ok q' ∧
    ∀ source ∈ q.sources, source.answersTo "books" = false := by
  obtain ⟨q, hq, hsorts⟩ := Except.exists_of_toOption_map (x := build ledger ledgerParts)
    (f := fun q => (addSortItem q { parts := ["books", "entries", "amount"] }).isOk) (b := true)
    (by decide +kernel)
  have hcalled := Except.eq_of_toOption_map hq
    (f := fun q => q.sources.all fun source => !source.answersTo "books") (b := true)
    (by decide +kernel)
  obtain ⟨q', hq'⟩ := Except.exists_of_isOk hsorts
  exact ⟨q, q', hq, hq', by simpa using hcalled⟩

end Fragments

end SelectBinding
