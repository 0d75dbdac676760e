import SelectBinding.Proofs.Build.Rebuilt
import SelectBinding.Reader

/-!
Reading the text of a query again.

Reading a statement is finding its parts and building the query from them. Where the parts of the
text of a query write that query, what is built from them is like it exactly when the names in the
text keep what they stand for.
-/

namespace SelectBinding

open Query

/-- Where the criterion is a number, it is one of an unsigned word and is kept as its digits. -/
def SortItem.Counted (item : SortItem) : Prop :=
  ∀ n ∈ item.number, n < UInt64.size ∧ item.parts = [toString n]

namespace Fragments

/-- What is built knows no empty alias, and shows all of its columns. -/
lemma build_aliases {lookup? : Lookup} {parts : Fragments} {q : Query}
    (h : build lookup? parts = .ok q) :
    (∀ source ∈ q.sources, source.aliasName ≠ some "") ∧
      ∀ column ∈ q.columns, column.aliasName ≠ some "" ∧ column.visible = true := by
  obtain ⟨tables, columns, filter, ordering, hkeyed, hmakes, -, rfl, -⟩ := build_parts h
  have hgiven (aliasName : Option String) : aliasName.bind givenAlias ≠ some "" := by
    cases aliasName with
    | none => simp
    | some name => exact givenAlias_ne_empty name
  constructor
  · intro source hsource
    obtain ⟨entry, hentry, rfl⟩ := List.mem_map.mp hsource
    obtain ⟨item, -, hitem⟩ := keyedTables_mem hkeyed hentry
    obtain ⟨_, aliasName, table, -, -, rfl⟩ := source_ok_iff.mp hitem
    exact hgiven aliasName
  · intro column hcolumn
    obtain ⟨item, -, expr, aliasName, kind, -, -, -, rfl⟩ := exists_left_of_forall₂ hmakes hcolumn
    exact ⟨hgiven aliasName, rfl⟩

/-- The expressions of what is built are no single names and may stand where they are. -/
lemma build_expressions {lookup? : Lookup} {parts : Fragments} {q : Query}
    (h : build lookup? parts = .ok q) :
    (∀ column ∈ q.columns, ∀ e, column.kind = .expression e →
        e.isVariable = false ∧ e.Admissible true) ∧
      ∀ e, q.filter = some e → e.Admissible false := by
  obtain ⟨scope, q₁, q₂, -, hadd, hfilter, hordering⟩ := build_ok_iff.mp h
  obtain ⟨columns, hmakes, rfl⟩ := addColumns_ok_iff.mp hadd
  obtain ⟨filter, hadmissible, rfl⟩ : ∃ filter, (∀ e, filter = some e → e.Admissible false) ∧
      q₂ = { startQuery scope with columns, filter } := by
    cases hparts : parts.clauses.bind Clauses.filter with
    | none =>
      rw [hparts] at hfilter
      exact ⟨none, by simp, (Except.ok.inj hfilter).symm⟩
    | some e =>
      rw [hparts] at hfilter
      obtain ⟨e', he, rfl⟩ := Except.map_eq_ok_iff.mp hfilter
      refine ⟨some e', fun e'' heq => ?_, rfl⟩
      obtain rfl := Option.some.inj heq
      exact scope.resolve_admissible false e e' he
  obtain ⟨ordering, -, rfl⟩ := addOrdering_ok hordering
  refine ⟨fun column hcolumn e hkind => ?_, hadmissible⟩
  obtain ⟨item, -, expr, aliasName, kind, -, -, hmake, rfl⟩ := exists_left_of_forall₂ hmakes hcolumn
  obtain rfl : kind = .expression e := hkind
  cases hmake with
  | name _ hshows => exact absurd hshows not_shows_expression
  | expression hvariable hresolve =>
    exact ⟨(Scope.resolve_isVariable hresolve).trans hvariable,
      scope.resolve_admissible true _ _ hresolve⟩

/-- A criterion by number comes of a number. -/
lemma addSortItem_number {q q' : Query} {item : SortItem} (h : addSortItem q item = .ok q') :
    ∃ target, q' = q.addSortKey target item.ascending ∧
      ∀ index, target = .number index → item.number = some (index + 1) := by
  unfold addSortItem at h
  split at h
  · rename_i info _
    rw [unexpected_ok_iff] at h
    unfold Query.sortByColumn at h
    split at h
    · exact ⟨.column info.column, (Except.ok.inj h).symm, by simp⟩
    · simp at h
  · split at h
    · rename_i number hnumber
      unfold sortByNumber at h
      simp only at h
      split at h
      · simp at h
      · rename_i index
        rw [Except.mapError_eq_ok_iff] at h
        unfold Query.sortByPosition at h
        split at h
        · exact ⟨.number index, (Except.ok.inj h).symm, by rintro _ ⟨⟩; exact hnumber⟩
        · simp at h
    · obtain ⟨p, field, -, rfl⟩ := sortByName_ok h
      exact ⟨_, rfl, by simp⟩

/-- The numbers of the criteria are numbers in the statement. -/
lemma addOrdering_numbers {q q' : Query} {items : List SortItem} {P : Nat → Prop}
    (hitems : ∀ item ∈ items, ∀ n ∈ item.number, P n) (h : addOrdering q items = .ok q')
    (hq : ∀ key ∈ q.ordering, ∀ index, key.target = .number index → P (index + 1)) :
    ∀ key ∈ q'.ordering, ∀ index, key.target = .number index → P (index + 1) := by
  induction items generalizing q with
  | nil =>
    obtain rfl := Except.ok.inj h
    exact hq
  | cons item rest ih =>
    rw [List.forall_mem_cons] at hitems
    simp only [addOrdering] at h
    split at h
    · simp at h
    · rename_i q₁ hitem
      obtain ⟨target, rfl, hnumber⟩ := addSortItem_number hitem
      refine ih hitems.2 h fun key hkey index hindex => ?_
      rcases List.mem_append.mp hkey with hkey | hkey
      · exact hq key hkey index hindex
      · obtain rfl := List.mem_singleton.mp hkey
        exact hitems.1 _ (hnumber index hindex)

/-- What is built has as many columns as there are items, and sorts by numbers that are given. -/
lemma build_counts {lookup? : Lookup} {parts : Fragments} {q : Query} {P : Nat → Prop}
    (h : build lookup? parts = .ok q)
    (hitems : ∀ item ∈ (parts.clauses.map Clauses.ordering).getD [], ∀ n ∈ item.number, P n) :
    q.columns.length = (parts.columns.getD []).length ∧
      ∀ key ∈ q.ordering, ∀ index, key.target = .number index → P (index + 1) := by
  obtain ⟨scope, q₁, q₂, -, hadd, hfilter, hordering⟩ := build_ok_iff.mp h
  obtain ⟨columns, hmakes, rfl⟩ := addColumns_ok_iff.mp hadd
  obtain ⟨filter, rfl⟩ := addFilter_eq hfilter
  refine ⟨?_, addOrdering_numbers hitems hordering (by simp [startQuery])⟩
  obtain ⟨ordering, -, rfl⟩ := addOrdering_ok hordering
  simpa [startQuery] using hmakes.length_eq.symm

end Fragments

namespace Reader

variable {reader : Reader} {sql : String}

/-- A reader that knows accounts and entries. -/
def ledgerReader : Reader :=
  { catalog := Fragments.ledger }

/-- The parts of a statement. -/
def parts? (reader : Reader) (sql : String) : Except Diagnostic Fragments := do
  let r := reader.reading sql
  if sql.toList.all Text.isBlank then .error { kind := .input, message := "No query specified" }
  else
    let statements ← (Sql.statementsOf reader.dialect sql).mapError r.diagnostic
    r.fragments (← r.onlyQuery sql statements)

/-- The parts of a statement are those of the one query that it is. -/
lemma fragments_of_parts? {parts : Fragments} (h : reader.parts? sql = .ok parts) :
    ∃ tree, Sql.statementsOf reader.dialect sql = .ok [.query tree] ∧
      (reader.reading sql).fragments tree = .ok parts := by
  unfold parts? at h
  extract_lets r at h
  split at h
  · cases h
  · obtain ⟨statements, hstatements, hquery⟩ := Except.bind_eq_ok_iff.mp h
    obtain ⟨tree, htree, hparts⟩ := Except.bind_eq_ok_iff.mp hquery
    rw [Except.mapError_eq_ok_iff] at hstatements
    obtain rfl : statements = [.query tree] := by
      unfold Sql.Reading.onlyQuery at htree
      split at htree <;> cases htree
      rfl
    exact ⟨tree, hstatements, hparts⟩

/-- **Stages.** A statement is read as the query that is built from its parts. -/
lemma query_ok_iff {q : Query} :
    reader.query sql = .ok q ↔
      ∃ parts q', reader.parts? sql = .ok parts ∧ parts.build reader.catalog = .ok q' ∧
        q = q'.setStatement sql := by
  have hstages : reader.query? sql =
      (reader.parts? sql).bind fun parts =>
        (parts.build reader.catalog).map (·.setStatement sql) := by
    unfold query? parts?
    simp only
    split
    · rfl
    · cases (Sql.statementsOf reader.dialect sql).mapError (reader.reading sql).diagnostic with
      | error e => rfl
      | ok statements =>
        simp only [bind, Except.bind]
        cases (reader.reading sql).onlyQuery sql statements with
        | error e => rfl
        | ok tree =>
          simp only
          cases (reader.reading sql).fragments tree with
          | error e => rfl
          | ok parts => cases parts.build reader.catalog <;> rfl
  rw [query, Except.mapError_eq_ok_iff, hstages]
  cases reader.parts? sql with
  | error e => simp [Except.bind]
  | ok parts =>
    simp only [Except.bind, Except.map_eq_ok_iff, Except.ok.injEq, exists_and_left,
      exists_eq_left', @eq_comm _ q]

/-- A query that is read is well formed. -/
lemma query_wellFormed {q : Query} (h : reader.query sql = .ok q) : q.WellFormed := by
  obtain ⟨parts, built, -, hbuilt, rfl⟩ := query_ok_iff.mp h
  obtain ⟨tables, columns, filter, ordering, -, hmakes, hresolved, rfl, hvalid⟩ :=
    Fragments.build_parts hbuilt
  exact ⟨Fragments.wellBound_of_makesColumns (Scope.keysInRange_ofKeyed tables) hmakes, hresolved,
    fun key hkey => Fragments.valid_congr (hvalid key hkey) rfl rfl,
    Fragments.startQuery_master _⟩

/-- **Reading again.** Where the parts of the text of a query write it, reading the text yields a
query that is like it exactly when the names keep what they stand for. -/
lemma reread_iff {q : Query} {parts : Fragments} (h : reader.query sql = .ok q)
    (hparts : reader.parts? (reader.render q) = .ok parts) (hwritten : q.WrittenBy parts) :
    (∃ q', reader.query (reader.render q) = .ok q' ∧ q.Alike q') ↔ q.NamesKeep reader.catalog := by
  have hwell := query_wellFormed h
  obtain ⟨first, built, -, hbuilt, rfl⟩ := query_ok_iff.mp h
  obtain ⟨haliases, hcolumns⟩ := Fragments.build_aliases hbuilt
  rw [← rebuilt_iff hwell haliases hcolumns hwritten]
  constructor
  · rintro ⟨_, hquery, halike⟩
    obtain ⟨parts', q', hparts', hbuild, rfl⟩ := query_ok_iff.mp hquery
    obtain rfl := Except.ok.inj (hparts.symm.trans hparts')
    exact ⟨q', hbuild, alike_of_outline halike.sources halike.columns⟩
  · rintro ⟨q', hbuild, halike⟩
    exact ⟨_, query_ok_iff.mpr ⟨parts, q', hparts, hbuild, rfl⟩,
      alike_of_outline halike.sources halike.columns⟩

end Reader

end SelectBinding
