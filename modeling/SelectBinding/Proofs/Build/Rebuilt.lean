import SelectBinding.Proofs.Build.Written

/-!
Building a query from the parts that write it.

The tables are looked up under their own names, and each of them is registered under its key. From
there on the columns and the filter decide, and every sorting criterion is found again.
-/

namespace SelectBinding

namespace Query

/-! ### Tables -/

/-- A table that is written is the one that is looked up under its name. -/
lemma WritesSource.source_ok_iff {source : Source} {item : Expr} {lookup? : Lookup}
    {entry : Source × String} (h : WritesSource source item) (halias : source.aliasName ≠ some "") :
    Fragments.source lookup? item = .ok entry ↔
      ∃ table, lookup? source.table.name = some table ∧
        entry = (⟨table, source.aliasName⟩, source.key) := by
  obtain ⟨v, hitem, hparts⟩ := h
  have hname : v.name = source.table.name := by simp [Variable.name, hparts, Name.dotted]
  rw [Fragments.source_ok_iff]
  constructor
  · rintro ⟨_, _, table, hitem', htable, rfl⟩
    obtain ⟨rfl, rfl⟩ := Prod.mk.inj (Except.ok.inj (hitem.symm.trans hitem'))
    exact ⟨table, by rwa [← hname], by rw [bind_givenAlias halias, hname, Source.key]⟩
  · rintro ⟨table, htable, rfl⟩
    exact ⟨v, _, table, hitem, by rwa [hname], by rw [bind_givenAlias halias, hname, Source.key]⟩

/-- The tables that are written are found again, each under its key, exactly when each of them is
looked up under its own name. -/
lemma keyedTables_written_iff {lookup? : Lookup} {sources : List Source} {items : List Expr}
    {tables : List (Source × String)} (h : List.Forall₂ WritesSource sources items)
    (halias : ∀ source ∈ sources, source.aliasName ≠ some "") :
    (Fragments.keyedTables lookup? items = .ok tables ∧ tables.map Prod.fst = sources) ↔
      (∀ source ∈ sources, lookup? source.table.name = some source.table) ∧
        tables = sources.map fun source => (source, source.key) := by
  rw [Fragments.keyedTables, Except.mapM_ok_iff]
  induction h generalizing tables with
  | nil => simp
  | @cons source item sources items hsource _ ih =>
    simp only [List.forall_mem_cons] at halias ⊢
    have hone (entry : Source × String) : Fragments.source lookup? item = .ok entry ↔ _ :=
      hsource.source_ok_iff halias.1
    simp only [List.forall₂_cons_left_iff, hone, List.map_cons]
    constructor
    · rintro ⟨⟨_, rest, ⟨table, htable, rfl⟩, hrest, rfl⟩, hmap⟩
      simp only [List.map_cons, List.cons.injEq] at hmap
      obtain ⟨hfirst, hmap⟩ := hmap
      obtain ⟨hlookups, rfl⟩ := (ih halias.2).mp ⟨hrest, hmap⟩
      obtain rfl : table = source.table := congrArg Source.table hfirst
      exact ⟨⟨htable, hlookups⟩, rfl⟩
    · rintro ⟨⟨htable, hlookups⟩, rfl⟩
      obtain ⟨hrest, hmap⟩ := (ih halias.2).mpr ⟨hlookups, rfl⟩
      exact ⟨⟨_, _, ⟨source.table, htable, rfl⟩, hrest, rfl⟩, by simpa using hmap⟩

lemma ofKeyed_sources (q : Query) :
    Scope.ofKeyed (q.sources.map fun source => (source, source.key)) = q.ownScope :=
  (Scope.ofSources_eq q.sources).symm

lemma answersTo_key (source : Source) : source.answersTo source.key = true := by
  obtain ⟨table, aliasName⟩ := source
  cases aliasName <;>
    simp [Source.answersTo, Source.key, Source.hasAlias, Table.hasName, Name.agree_iff]

/-! ### Sorting -/

lemma fieldName_writtenName (q : Query) (p : Nat) (name : String) (item : SortItem)
    (h : item.parts = q.writtenName p name) : item.fieldName = name := by
  unfold SortItem.fieldName
  rw [h, writtenName]
  split
  · rfl
  · split <;> rfl

/-- The qualifier that a field is written with is one that its table goes by. -/
lemma qualifier?_writtenName {q : Query} {p : Nat} {source : Source} {name : String}
    {item : SortItem} (hsource : q.sources[p]? = some source)
    (h : item.parts = q.writtenName p name) : item.qualifier?.all source.answersTo = true := by
  simp only [SortItem.qualifier?, h, writtenName, hsource]
  by_cases hunique : q.sources.countP (fun other => Name.agree other.key source.key) = 1
  · simp [hunique, answersTo_key]
  · simp [hunique]

/-- A field that is written is found in some table. -/
lemma findField?_written {q : Query} {p : Nat} {name : String} {item : SortItem}
    (hdeclared : DeclaredAt q.sources p name) (h : item.parts = q.writtenName p name) :
    ∃ found, q.findField? item.qualifier? item.fieldName = some found := by
  obtain ⟨source, hsource, field, -, -, hfield⟩ := hdeclared
  rw [fieldName_writtenName q p name item h]
  exact Option.isSome_iff_exists.mp (findFieldFrom_isSome (List.mem_of_getElem? hsource)
    (qualifier?_writtenName hsource h) (by simp [hfield]) 0)

/-- A criterion is taken when its name is found among the columns, its number among the expanded
columns or else its name among the tables. -/
lemma addSortItem_isOk {q : Query} {item : SortItem}
    (h : (q.columnInfo? item.qualifier? item.fieldName false).isSome = true ∨
      (∃ index, item.number = some (index + 1) ∧ index < q.expanded.length) ∨
      item.number = none ∧
        ∃ found, q.findField? item.qualifier? item.fieldName = some found) :
    ∃ target, Fragments.addSortItem q item = .ok (q.addSortKey target item.ascending) := by
  unfold Fragments.addSortItem
  cases hinfo : q.columnInfo? item.qualifier? item.fieldName false with
  | some found =>
    refine ⟨.column found.2.column, ?_⟩
    simp [sortByColumn, column_lt_of_columnInfo? hinfo, Fragments.unexpected, Except.mapError]
  | none =>
    rcases h with h | ⟨index, hnumber, hlt⟩ | ⟨hnumber, found, hfound⟩
    · simp [hinfo] at h
    · refine ⟨.number index, ?_⟩
      simp [hnumber, Fragments.sortByNumber, sortByPosition, hlt, Except.mapError]
    · obtain ⟨p, field⟩ := found
      obtain ⟨source, hsource, -⟩ := findField?_some_iff.mp hfound
      obtain ⟨hlt, -⟩ := List.getElem?_eq_some_iff.mp hsource
      refine ⟨.field p field.name, ?_⟩
      simp [hnumber, Fragments.sortByName, hfound, sortByField, hlt, Fragments.unexpected,
        Except.mapError]

/-- A column with an alias is found by it. -/
lemma columnInfo?_alias {q : Query} {index : Nat} {column : Column} {name : String}
    (hc : q.columns[index]? = some column) (hk : column.kind.isAsterisk = false)
    (ha : column.aliasName = some name) : (q.columnInfo? none name false).isSome = true := by
  rw [← Option.isSome_map, columnInfo?_snd, List.find?_isSome]
  have hmem : (column, index) ∈ q.columns.zipIdx := List.mem_zipIdx_iff_getElem?.mpr hc
  obtain ⟨kind, aliasName, visible⟩ := column
  obtain rfl : aliasName = some name := ha
  cases kind with
  | asterisk scope => simp [ColumnKind.isAsterisk] at hk
  | field f =>
    exact ⟨_, List.mem_filterMap.mpr ⟨_, hmem, rfl⟩, by simp [answers, Name.agree_refl]⟩
  | expression e =>
    exact ⟨_, List.mem_filterMap.mpr ⟨_, hmem, rfl⟩,
      by simp [answers, columnAlias?, hc, Name.agree_refl]⟩

/-- What a criterion that is written for one query needs is there in another one that is alike. -/
lemma WritesTarget.addSortItem_isOk {q q' : Query} {target : SortTarget} {item : SortItem}
    (hq : q.WellFormed) (halike : q.Alike q') (hvalid : target.Valid q)
    (h : q.WritesTarget target item) :
    ∃ target, Fragments.addSortItem q' item = .ok (q'.addSortKey target item.ascending) := by
  have hfound {p : Nat} {name : String} (hdeclared : DeclaredAt q.sources p name)
      (hitem : item.parts = q.writtenName p name) :
      ∃ found, q'.findField? item.qualifier? item.fieldName = some found := by
    have hfind := findField?_written hdeclared hitem
    simpa only [findField?, halike.sources] using hfind
  apply Query.addSortItem_isOk
  cases h with
  | @aliased index column name _ hc hk ha hitem =>
    left
    obtain ⟨column', hc', houtline⟩ : ∃ column', q'.columns[index]? = some column' ∧
        column'.outline = column.outline := by
      have hget := congrArg (·[index]?) halike.columns
      simpa [hc] using hget
    obtain ⟨kind', alias', visible'⟩ := column'
    obtain ⟨kind, aliasName, visible⟩ := column
    simp only [Column.outline, Column.mk.injEq] at houtline
    have hk' : kind'.isAsterisk = false := by
      cases kind' <;> cases kind <;> simp_all [ColumnKind.outline, ColumnKind.isAsterisk]
    have hfound : (q'.columnInfo? none name false).isSome = true :=
      columnInfo?_alias hc' hk' (by simp_all)
    simpa [SortItem.qualifier?, SortItem.fieldName, hitem] using hfound
  | @listed index column f p _ hc ha hk hp hitem hn =>
    have hwell := hq.columns column (List.mem_of_getElem? hc)
    rw [hk] at hwell
    obtain ⟨p', source, hp', hsource, -, hdeclares⟩ := hwell
    obtain rfl := Option.some.inj (hp.symm.trans hp')
    exact .inr (.inr ⟨hn, hfound ⟨source, hsource, hdeclares⟩ hitem⟩)
  | number hitem hn => exact .inr (.inl ⟨_, hn, by rw [halike.expanded]; exact hvalid⟩)
  | field hitem hn => exact .inr (.inr ⟨hn, hfound hvalid hitem⟩)

lemma Alike.setOrdering {q q' : Query} (h : q.Alike q') (ordering : List SortKey) :
    q.Alike { q' with ordering } :=
  alike_of_outline h.sources h.columns

/-- Every criterion that is written for a query is taken by one that is alike. -/
lemma addOrdering_written {q q' : Query} (hq : q.WellFormed) (halike : q.Alike q')
    {keys : List SortKey} {items : List SortItem} (hvalid : ∀ key ∈ keys, key.target.Valid q)
    (h : List.Forall₂ q.WritesKey keys items) :
    ∃ ordering, Fragments.addOrdering q' items = .ok { q' with ordering } := by
  induction h generalizing q' with
  | nil => exact ⟨q'.ordering, rfl⟩
  | @cons key item keys items hkey _ ih =>
    rw [List.forall_mem_cons] at hvalid
    obtain ⟨target, hadd⟩ := hkey.1.addSortItem_isOk hq halike hvalid.1
    have hsorted : q.Alike (q'.addSortKey target item.ascending) := halike.setOrdering _
    obtain ⟨ordering, hrest⟩ := ih hsorted hvalid.2
    exact ⟨ordering, by rw [Fragments.addOrdering, hadd]; exact hrest⟩

/-! ### Filter -/

lemma addFilter_eq {scope : Scope} {q q' : Query} {filter : Option Expr}
    (h : Fragments.addFilter scope q filter = .ok q') :
    ∃ filter', q' = { q with filter := filter' } := by
  cases filter with
  | none => exact ⟨q.filter, (Except.ok.inj h).symm⟩
  | some e =>
    obtain ⟨e', -, rfl⟩ := Except.map_eq_ok_iff.mp h
    exact ⟨some e', rfl⟩

/-- The filter that is written is taken exactly when its names stand for anything at all. -/
lemma WrittenBy.addFilter_isOk_iff {q : Query} {parts : Fragments} (h : q.WrittenBy parts)
    (scope : Scope) (q₁ : Query) :
    (∃ q₂, Fragments.addFilter scope q₁ (parts.clauses.bind Clauses.filter) = .ok q₂) ↔
      ∀ e, q.filter = some e → ∀ v ∈ e.allVariables, scope.Binds v := by
  rcases h.filter with ⟨hnone, hparts⟩ | ⟨e, written, he, hparts, hwrites⟩
  · simp [hnone, hparts, Fragments.addFilter]
  · simp only [he, hparts, Fragments.addFilter, Except.exists_map_ok, Option.some.injEq,
      forall_eq']
    exact hwrites.resolve_isOk_iff scope

/-! ### The whole -/

/-- **Building again.** A query that is built from parts which write another one is like it exactly
when the names in them keep what they stand for. -/
theorem rebuilt_iff {q : Query} {lookup? : Lookup} {parts : Fragments} (hq : q.WellFormed)
    (halias : ∀ source ∈ q.sources, source.aliasName ≠ some "")
    (hcolumn : ∀ column ∈ q.columns, column.aliasName ≠ some "" ∧ column.visible = true)
    (h : q.WrittenBy parts) :
    (∃ q', Fragments.build lookup? parts = .ok q' ∧ q.Alike q') ↔ q.NamesKeep lookup? := by
  have hcolumns := makesColumns_written_iff
    (fun column hc => ⟨hq.columns column hc, hcolumn column hc⟩) h.columns
  constructor
  · rintro ⟨q', hbuild, halike⟩
    obtain ⟨scope, q₁, q₂, htables, hadd, hfilter, hordering⟩ := Fragments.build_ok_iff.mp hbuild
    obtain ⟨tables, hkeyed, rfl⟩ := Fragments.addTables_ok_iff.mp htables
    obtain ⟨columns, hmakes, rfl⟩ := Fragments.addColumns_ok_iff.mp hadd
    have hbinds := (h.addFilter_isOk_iff (.ofKeyed tables) _).mp ⟨q₂, hfilter⟩
    obtain ⟨filter, rfl⟩ := addFilter_eq hfilter
    obtain ⟨ordering, -, rfl⟩ := Fragments.addOrdering_ok hordering
    obtain ⟨hlookups, rfl⟩ :=
      (keyedTables_written_iff h.tables halias).mp ⟨hkeyed, halike.sources⟩
    rw [ofKeyed_sources] at hmakes hbinds
    exact ⟨hlookups, hcolumns.mp ⟨columns, hmakes, halike.columns⟩, hbinds⟩
  · intro hkeep
    obtain ⟨hkeyed, -⟩ := (keyedTables_written_iff h.tables halias).mpr ⟨hkeep.tables, rfl⟩
    obtain ⟨columns, hmakes, houtline⟩ := hcolumns.mpr hkeep.columns
    let started := Fragments.startQuery q.ownScope
    obtain ⟨q₂, hfilter⟩ := (h.addFilter_isOk_iff q.ownScope { started with columns }).mpr
      hkeep.filter
    obtain ⟨filter, rfl⟩ := addFilter_eq hfilter
    have halike : q.Alike { started with columns, filter } := alike_of_outline rfl houtline
    obtain ⟨ordering, hordering⟩ := addOrdering_written hq halike hq.ordering h.ordering
    refine ⟨_, Fragments.build_ok_iff.mpr ⟨q.ownScope, _, _, ?_, ?_, hfilter, hordering⟩,
      halike.setOrdering ordering⟩
    · exact Fragments.addTables_ok_iff.mpr ⟨_, hkeyed, ofKeyed_sources q⟩
    · exact Fragments.addColumns_ok_iff.mpr ⟨columns, hmakes, rfl⟩

end Query

end SelectBinding
