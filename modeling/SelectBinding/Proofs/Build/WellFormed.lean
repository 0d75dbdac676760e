import SelectBinding.Proofs.Build.Columns
import SelectBinding.Proofs.Query.Lookup

/-!
Every query that is built is well formed.

Its field columns are fields that their tables declare, the variables of its expressions are bound,
its sorting criteria name what is there, and its master is its only table. Each step of building
adds one part to the query and leaves the other parts as they are, so the parts are looked at one
by one.
-/

namespace SelectBinding

/-! ### The invariant -/

/-- What the column stands for is there, and its table is the one it is bound to. -/
def ColumnKind.WellBound (sources : List Source) : ColumnKind → Prop
  | .field column =>
    ∃ p source, column.position = some p ∧ sources[p]? = some source ∧
      column.table = source.table ∧ source.table.Declares column.field
  | .asterisk none => True
  | .asterisk (some position) => position < sources.length
  | .expression e => e.Resolved sources

/-- The target is a column of the query, one of its expanded columns or a declared field of one of
its tables. -/
def SortTarget.Valid (q : Query) : SortTarget → Prop
  | .column index => index < q.columns.length
  | .number index => index < q.expanded.length
  | .field position name => DeclaredAt q.sources position name

/-- What the columns of the query stand for is there. -/
def Query.ColumnsBound (q : Query) : Prop :=
  ∀ column ∈ q.columns, column.kind.WellBound q.sources

/-- What holds of a query that is built. -/
structure Query.WellFormed (q : Query) : Prop where
  columns : ∀ column ∈ q.columns, column.kind.WellBound q.sources
  filter : ∀ e, q.filter = some e → e.Resolved q.sources
  ordering : ∀ key ∈ q.ordering, key.target.Valid q
  master : ∀ table, q.declaredMaster = some table ↔
    ∃ source, q.sources = [source] ∧ source.table = table

namespace Fragments

/-! ### Columns -/

variable {scope : Scope} {q q' : Query}

/-- A bound name becomes a column that knows its table. -/
lemma wellBound_of_shows {sources : List Source} {b : Binding} {kind : ColumnKind}
    (hb : b.Valid sources) (h : Scope.Shows sources b kind) : kind.WellBound sources := by
  cases h with
  | field hsource =>
    obtain ⟨source, hat, hdeclares⟩ := hb
    obtain rfl := Option.some.inj (hsource.symm.trans hat)
    exact ⟨_, _, rfl, hsource, rfl, hdeclares⟩
  | tableAsterisk => exact hb
  | allTables _ => trivial

/-- **One column.** A column that is made stands for something that is there. -/
lemma wellBound_of_makes (hkeys : scope.KeysInRange) {expr : Expr} {kind : ColumnKind}
    (h : scope.Makes scope.sources expr kind) : kind.WellBound scope.sources := by
  cases h with
  | name hbind hshows => exact wellBound_of_shows (scope.bind_valid hkeys hbind) hshows
  | expression _ hresolve => exact scope.resolve_resolved hkeys true _ _ hresolve

lemma wellBound_of_makesColumns (hkeys : scope.KeysInRange) {items : List Expr}
    {columns : List Column} (h : List.Forall₂ (MakesColumn scope scope.sources) items columns) :
    ∀ column ∈ columns, column.kind.WellBound scope.sources := by
  intro column hc
  obtain ⟨item, -, expr, aliasName, kind, -, -, hmakes, rfl⟩ := exists_left_of_forall₂ h hc
  exact wellBound_of_makes hkeys hmakes

/-! ### Filter and sorting -/

/-- **Filter.** The filter of a query is what the one of the statement resolves to. -/
lemma addFilter_resolves {filter : Option Expr} (hq : q.filter = none)
    (h : addFilter scope q filter = .ok q') :
    ∃ filter', (∀ e', filter' = some e' → ∃ e, scope.resolve false e = .ok e') ∧
      q' = { q with filter := filter' } := by
  cases filter with
  | none =>
    obtain rfl := Except.ok.inj h
    exact ⟨none, by simp, by rw [← hq]⟩
  | some e =>
    obtain ⟨e', he, rfl⟩ := Except.map_eq_ok_iff.mp h
    refine ⟨some e', fun e'' h' => ?_, rfl⟩
    obtain rfl := Option.some.inj h'
    exact ⟨e, he⟩

lemma addFilter_ok (hkeys : scope.KeysInRange) {filter : Option Expr} (hq : q.filter = none)
    (h : addFilter scope q filter = .ok q') :
    ∃ filter', (∀ e, filter' = some e → e.Resolved scope.sources) ∧
      q' = { q with filter := filter' } := by
  obtain ⟨filter', hresolves, hq'⟩ := addFilter_resolves hq h
  refine ⟨filter', fun e' he' => ?_, hq'⟩
  obtain ⟨e, he⟩ := hresolves e' he'
  exact scope.resolve_resolved hkeys false e e' he

lemma sortByNumber_ok {item : SortItem} {number : Nat}
    (h : sortByNumber q item number = .ok q') :
    ∃ index, index < q.expanded.length ∧ q' = q.addSortKey (.number index) item.ascending := by
  unfold sortByNumber at h
  simp only at h
  split at h
  · simp at h
  · rename_i index
    rw [Except.mapError_eq_ok_iff] at h
    unfold Query.sortByPosition at h
    split at h
    · rename_i hlt
      exact ⟨index, hlt, (Except.ok.inj h).symm⟩
    · simp at h

lemma sortByName_ok {item : SortItem} (h : sortByName q item = .ok q') :
    ∃ p field, q.findField? item.qualifier? item.fieldName = some (p, field) ∧
      q' = q.addSortKey (.field p field.name) item.ascending := by
  unfold sortByName at h
  split at h
  · rename_i p field hfound
    rw [unexpected_ok_iff] at h
    unfold Query.sortByField at h
    split at h
    · exact ⟨p, field, hfound, (Except.ok.inj h).symm⟩
    · simp at h
  · simp at h

/-- **One sorting criterion.** A criterion is added at the end, for something that is there. -/
lemma addSortItem_ok {item : SortItem} (h : addSortItem q item = .ok q') :
    ∃ target : SortTarget, target.Valid q ∧ q' = q.addSortKey target item.ascending := by
  unfold addSortItem at h
  split at h
  · rename_i info hinfo
    rw [unexpected_ok_iff] at h
    unfold Query.sortByColumn at h
    split at h
    · rename_i hlt
      exact ⟨.column info.column, hlt, (Except.ok.inj h).symm⟩
    · simp at h
  · split at h
    · obtain ⟨index, hlt, rfl⟩ := sortByNumber_ok h
      exact ⟨.number index, hlt, rfl⟩
    · obtain ⟨p, field, hfound, rfl⟩ := sortByName_ok h
      obtain ⟨source, hat, -, hfield, -⟩ := Query.findField?_some_iff.mp hfound
      exact ⟨.field p field.name, ⟨source, hat, Table.declares_of_field? hfield⟩, rfl⟩

/-- Whether a target is valid depends on the tables and the columns alone. -/
lemma valid_congr {target : SortTarget} (h : target.Valid q) (hs : q.sources = q'.sources)
    (hc : q.columns = q'.columns) : target.Valid q' := by
  cases target with
  | column index =>
    simp only [SortTarget.Valid] at h ⊢
    rwa [← hc]
  | number index =>
    simp only [SortTarget.Valid] at h ⊢
    rwa [← Query.expanded_congr hs hc]
  | field position name =>
    simp only [SortTarget.Valid] at h ⊢
    rwa [← hs]

lemma addOrdering_ok {items : List SortItem} (h : addOrdering q items = .ok q') :
    ∃ added : List SortKey, (∀ key ∈ added, key.target.Valid q) ∧
      q' = { q with ordering := q.ordering ++ added } := by
  induction items generalizing q with
  | nil =>
    obtain rfl := Except.ok.inj h
    exact ⟨[], by simp, by simp⟩
  | cons item rest ih =>
    simp only [addOrdering] at h
    split at h
    · simp at h
    · rename_i q₁ hitem
      obtain ⟨target, hvalid, rfl⟩ := addSortItem_ok hitem
      obtain ⟨added, hadded, rfl⟩ := ih h
      refine ⟨⟨target, item.ascending⟩ :: added, fun key hkey => ?_, by simp [Query.addSortKey]⟩
      rcases List.mem_cons.mp hkey with rfl | hkey
      · exact hvalid
      · exact valid_congr (hadded key hkey) rfl rfl

/-! ### The whole -/

/-- **Stages.** Building looks up the tables and adds the columns, the filter and the sorting one
after the other. -/
lemma build_ok_iff {lookup? : Lookup} {parts : Fragments} :
    build lookup? parts = .ok q ↔
      ∃ scope q₁ q₂, addTables lookup? {} (parts.tables.getD []) = .ok scope ∧
        addColumns scope (startQuery scope) (parts.columns.getD []) = .ok q₁ ∧
        addFilter scope q₁ (parts.clauses.bind Clauses.filter) = .ok q₂ ∧
        addOrdering q₂ ((parts.clauses.map Clauses.ordering).getD []) = .ok q := by
  unfold build
  cases addTables lookup? {} (parts.tables.getD []) with
  | error e => simp
  | ok scope =>
    simp only [Except.ok.injEq, exists_eq_left', exists_and_left]
    cases addColumns scope (startQuery scope) (parts.columns.getD []) with
    | error e => simp
    | ok q₁ =>
      cases parts.clauses with
      | none => simp [addFilter, addOrdering]
      | some clauses =>
        simp only [addClauses, Option.bind_some, Option.map_some, Option.getD_some,
          Except.ok.injEq, exists_eq_left']
        cases addFilter scope q₁ clauses.filter <;> simp

/-- **Parts.** A query that is built has a table for every item after `FROM`, a column for every
column item, and a filter and a sorting that know them. -/
lemma build_parts {lookup? : Lookup} {parts : Fragments} (h : build lookup? parts = .ok q) :
    ∃ tables columns filter ordering,
      keyedTables lookup? (parts.tables.getD []) = .ok tables ∧
      List.Forall₂ (MakesColumn (.ofKeyed tables) (tables.map Prod.fst))
        (parts.columns.getD []) columns ∧
      (∀ e, filter = some e → e.Resolved (tables.map Prod.fst)) ∧
      q = { startQuery (.ofKeyed tables) with columns, filter, ordering } ∧
      ∀ key ∈ ordering, key.target.Valid q := by
  obtain ⟨scope, q₁, q₂, htables, hcolumns, hfilter, hordering⟩ := build_ok_iff.mp h
  obtain ⟨tables, hkeyed, rfl⟩ := addTables_ok_iff.mp htables
  obtain ⟨columns, hmakes, rfl⟩ := addColumns_ok_iff.mp hcolumns
  obtain ⟨filter, hresolved, rfl⟩ := addFilter_ok (Scope.keysInRange_ofKeyed tables) rfl hfilter
  obtain ⟨ordering, hvalid, rfl⟩ := addOrdering_ok hordering
  refine ⟨tables, columns, filter, ordering, hkeyed, hmakes, hresolved, by simp [startQuery], ?_⟩
  intro key hkey
  exact valid_congr (hvalid key hkey) rfl rfl

lemma build_sources {lookup? : Lookup} {parts : Fragments} (h : build lookup? parts = .ok q) :
    ∃ tables, keyedTables lookup? (parts.tables.getD []) = .ok tables ∧
      addTables lookup? {} (parts.tables.getD []) = .ok (.ofKeyed tables) ∧
      q.sources = tables.map Prod.fst := by
  obtain ⟨tables, columns, filter, ordering, hkeyed, -, -, rfl, -⟩ := build_parts h
  exact ⟨tables, hkeyed, addTables_ok_iff.mpr ⟨tables, hkeyed, rfl⟩, rfl⟩

/-- The columns of what is built stand for something that is there. -/
lemma build_columnsBound {lookup? : Lookup} {parts : Fragments}
    (h : build lookup? parts = .ok q) : q.ColumnsBound := by
  obtain ⟨tables, columns, filter, ordering, -, hmakes, -, rfl, -⟩ := build_parts h
  exact wellBound_of_makesColumns (Scope.keysInRange_ofKeyed tables) hmakes

lemma startQuery_master (scope : Scope) (table : Table) :
    (startQuery scope).declaredMaster = some table ↔
      ∃ source, scope.sources = [source] ∧ source.table = table := by
  unfold startQuery
  split
  · rename_i only h
    simp [h]
  · rename_i h
    simp only [reduceCtorEq, false_iff, not_exists, not_and]
    exact fun source hsource => absurd hsource (h source)

/-- **Well-formedness.** Whatever the tables are looked up in and whatever the parts of a statement
are, the query they make is well formed. -/
theorem build_wellFormed (lookup? : Lookup) (parts : Fragments)
    (h : build lookup? parts = .ok q) : q.WellFormed := by
  obtain ⟨tables, columns, filter, ordering, -, hmakes, hresolved, rfl, hvalid⟩ := build_parts h
  have hkeys := Scope.keysInRange_ofKeyed tables
  exact ⟨wellBound_of_makesColumns hkeys hmakes, hresolved, hvalid, startQuery_master _⟩

/-- Two tables that have a field of one name. -/
def ledger : Catalog :=
  ⟨[{ name := "accounts", fields := [{ name := "Id" }, { name := "owner" }] },
    { name := "entries", fields := [{ name := "id" }, { name := "amount" }] }]⟩

/-- The parts of `SELECT a.id, entries.*, COUNT(*) + amount AS n FROM accounts a, entries
WHERE a.id = entries.id ORDER BY n, 2 DESC, owner`. -/
def ledgerParts : Fragments :=
  { columns := some [.named "a.id", .named "entries.*",
      .aliased (.operation (.call .aggregate "COUNT" [.named "*"]) .add (.named "amount")) "n"]
    tables := some [.underName (.named "accounts") (.named "a") false, .named "entries"]
    clauses := some
      { filter := some (.operation (.named "a.id") .eq (.named "entries.id"))
        ordering := [.named "n" true, .numbered 2 false, .named "owner" true] } }

theorem build_wellFormed_ledger : ∃ q, build ledger ledgerParts = .ok q ∧ q.WellFormed := by
  obtain ⟨q, h⟩ := Except.exists_of_isOk (x := build ledger ledgerParts) (by decide +kernel)
  exact ⟨q, h, build_wellFormed _ _ h⟩

end Fragments

end SelectBinding
