import Mathlib.Data.List.Find
import SelectBinding.Proofs.Build.WellFormed

/-!
Sorting by a qualified name.

Names in columns and in the filter are looked up by key, sorting criteria by a search of their own:
first among the columns, then among the tables after `FROM`. The search takes the first table that
goes by the qualifier, as its name or as its alias, so it passes by the key of a table when the
table is also used under another alias.
-/

namespace SelectBinding

/-- The target is the field `name` of the table at `position`, or a column for it. -/
def SortTarget.StandsFor (q : Query) (position : Nat) (name : String) : SortTarget → Prop
  | .column index =>
    ∃ column f, q.columns[index]? = some column ∧ column.kind = .field f ∧
      f.position = some position ∧ f.field = name
  | .number _ => False
  | .field p f => p = position ∧ f = name

/-- The position of the table whose field called `name` is asked for by a column without an
alias. -/
def Column.ownerOf? (column : Column) (name : String) : Option Nat :=
  match column.aliasName, column.kind with
  | none, .field f => if Name.agree f.field name then f.position else none
  | _, _ => none

namespace Query

/-- The positions of tables with a field called `name`, in the order in which a sorting criterion
searches them: those of columns first, then all in the order after `FROM`. -/
def owners (q : Query) (name : String) : List Nat :=
  q.columns.filterMap (Column.ownerOf? · name) ++
    (List.range q.sources.length).filter fun p =>
      q.sources[p]?.any fun source => (source.table.field? name).isSome

/-- Whether the table at `position` goes by `qualifier`. -/
def answersAt (q : Query) (qualifier : String) (position : Nat) : Bool :=
  q.sources[position]?.any fun source => source.answersTo qualifier

/-- Sorting by `qualifier.name` sorts by the field `field` of the table at `position`. -/
def SortsBy (q : Query) (qualifier name : String) (ascending : Bool) (place : Option Nat)
    (position : Nat) (field : String) : Prop :=
  ∃ target : SortTarget, target.StandsFor q position field ∧
    Fragments.addSortItem q { parts := [qualifier, name], ascending, position := place } =
      .ok (q.addSortKey target ascending)

/-- The first column that a sorting criterion finds for `qualifier.name`, with its index. -/
def listed? (q : Query) (qualifier name : String) : Option (Column × Nat) :=
  q.columns.zipIdx.find? fun entry => (entry.1.ownerOf? name).any (q.answersAt qualifier)

/-- The first table that a sorting criterion finds for `qualifier.name`. -/
def offering? (q : Query) (qualifier name : String) : Option Nat :=
  (List.range q.sources.length).find? fun p =>
    q.sources[p]?.any (fun source => (source.table.field? name).isSome) && q.answersAt qualifier p

lemma answersAt_iff {q : Query} {qualifier : String} {position : Nat} :
    q.answersAt qualifier position = true ↔
      ∃ source, q.sources[position]? = some source ∧ source.answersTo qualifier = true := by
  simp [answersAt, Option.any_eq_true]

/-- Every table with the field is an owner. -/
lemma mem_owners {q : Query} {name : String} {p : Nat} {source : Source}
    (hsource : q.sources[p]? = some source) (hfield : (source.table.field? name).isSome = true) :
    p ∈ q.owners name := by
  obtain ⟨hlt, -⟩ := List.getElem?_eq_some_iff.mp hsource
  refine List.mem_append_right _ (List.mem_filter.mpr ⟨List.mem_range.mpr hlt, ?_⟩)
  simpa [hsource] using hfield

/-! ### The search -/

/-- A column answers to a qualified name when the table it belongs to goes by the qualifier. -/
lemma ownColumn?_answers {q : Query} {column : Column} (h : column.kind.WellBound q.sources)
    (index : Nat) (qualifier name : String) :
    (q.ownColumn? index column).any (q.answers (some qualifier) name) =
      (column.ownerOf? name).any (q.answersAt qualifier) := by
  obtain ⟨kind, aliasName, visible⟩ := column
  cases kind with
  | asterisk scope => cases aliasName <;> simp [ownColumn?, Column.ownerOf?]
  | expression e =>
    have hown : ∀ aliasName : Option String,
        q.answers (some qualifier) name ⟨.expression index, aliasName, visible, index, false⟩ =
          false := by
      intro aliasName
      cases aliasName <;> simp [answers]
    cases aliasName <;> simp [ownColumn?, Column.ownerOf?, hown]
  | field f =>
    obtain ⟨p, source, hp, hsource, htable, -⟩ := h
    cases aliasName with
    | some aliasName => simp [ownColumn?, Column.ownerOf?, answers]
    | none =>
      cases hname : Name.agree f.field name <;>
        simp [ownColumn?, Column.ownerOf?, answers, hname, hp, answersAt, hsource, htable,
          tableAlias?, Source.answersTo, Source.hasAlias]

/-- The first column whose own entry answers, with its index, is the first one that belongs to a
table which goes by the qualifier. -/
lemma columnInfo?_eq_find? {q : Query} (h : q.ColumnsBound) (qualifier name : String) :
    (q.columnInfo? (some qualifier) name false).map Prod.snd =
      (q.listed? qualifier name).bind fun entry => q.ownColumn? entry.2 entry.1 := by
  rw [listed?, columnInfo?_snd, List.find?_filterMap]
  congr 1
  apply List.find?_congr
  intro entry hentry
  have hmem : entry.1 ∈ q.columns := List.fst_mem_of_mem_zipIdx hentry
  exact ownColumn?_answers (h _ hmem) entry.2 qualifier name

lemma owners_find? (q : Query) (qualifier name : String) :
    (q.owners name).find? (q.answersAt qualifier) =
      ((q.listed? qualifier name).bind fun entry => entry.1.ownerOf? name).or
        (q.offering? qualifier name) := by
  have hcolumns : q.columns = q.columns.zipIdx.map Prod.fst := by simp
  rw [owners, List.find?_append, List.find?_filter, List.find?_filterMap]
  congr 1
  · conv =>
      lhs
      rw [hcolumns, List.find?_map]
    rw [Option.bind_map]
    rfl
  · congr 1
    funext p
    simp

lemma ownerOf?_eq_some_iff {column : Column} {name : String} {p : Nat} :
    column.ownerOf? name = some p ↔
      column.aliasName = none ∧ ∃ f, column.kind = .field f ∧ Name.agree f.field name = true ∧
        f.position = some p := by
  obtain ⟨kind, aliasName, visible⟩ := column
  cases aliasName <;> cases kind <;> simp [Column.ownerOf?]

lemma ownerOf?_of_listed? {q : Query} {qualifier name : String} {entry : Column × Nat}
    (h : q.listed? qualifier name = some entry) : ∃ p, entry.1.ownerOf? name = some p := by
  have hany := List.find?_some h
  obtain ⟨p, howner, -⟩ := (Option.any_eq_true _ _).mp hany
  exact ⟨p, howner⟩

lemma addSortItem_named (q : Query) (qualifier name : String) (ascending : Bool)
    (place : Option Nat) :
    Fragments.addSortItem q { parts := [qualifier, name], ascending, position := place } =
      match (q.columnInfo? (some qualifier) name false).map Prod.snd with
      | some c => Fragments.unexpected (q.sortByColumn c.column ascending)
      | none =>
        Fragments.sortByName q { parts := [qualifier, name], ascending, position := place } := by
  rw [Fragments.addSortItem]
  simp only [SortItem.qualifier?, SortItem.fieldName, List.reverse_cons, List.reverse_nil,
    List.nil_append, List.cons_append, List.getLast?_cons_cons, List.getLast?_singleton,
    Option.getD_some]
  cases q.columnInfo? (some qualifier) name false <;> rfl

/-- The column that a search finds is for a field of the table it belongs to. -/
lemma sortsBy_column {q : Query} (h : q.ColumnsBound) {qualifier name : String}
    {entry : Column × Nat} {p : Nat}
    (hfind : q.listed? qualifier name = some entry)
    (howner : entry.1.ownerOf? name = some p) (ascending : Bool) (place : Option Nat) :
    ∃ source field, q.sources[p]? = some source ∧ source.table.field? name = some field ∧
      q.SortsBy qualifier name ascending place p field.name := by
  obtain ⟨column, index⟩ := entry
  have hget : q.columns[index]? = some column :=
    List.mem_zipIdx_iff_getElem?.mp (List.mem_of_find?_eq_some hfind)
  obtain ⟨hlt, -⟩ := List.getElem?_eq_some_iff.mp hget
  have hinfo := columnInfo?_eq_find? h qualifier name
  have howner : column.ownerOf? name = some p := howner
  obtain ⟨halias, f, hkind, hname, hp⟩ := ownerOf?_eq_some_iff.mp howner
  have hwell := h column (List.mem_of_getElem? hget)
  rw [hkind] at hwell
  obtain ⟨p', source, hp', hsource, -, field, -, hfield, hfound⟩ := hwell
  obtain rfl := Option.some.inj (hp.symm.trans hp')
  refine ⟨source, field, hsource, by rwa [← Table.field?_congr hname], .column index,
    ⟨column, f, hget, hkind, hp, hfield.symm⟩, ?_⟩
  rw [addSortItem_named, hinfo, hfind]
  simp [ownColumn?, hkind, sortByColumn, hlt, Fragments.unexpected, Except.mapError]

/-- A search that finds no column goes through the tables in their order. -/
lemma sortsBy_table {q : Query} (h : q.ColumnsBound) {qualifier name : String} {p : Nat}
    (hnone : q.listed? qualifier name = none) (hp : q.offering? qualifier name = some p)
    (ascending : Bool) (place : Option Nat) :
    ∃ source field, q.sources[p]? = some source ∧ source.table.field? name = some field ∧
      q.SortsBy qualifier name ascending place p field.name := by
  simp only [offering?, List.find?_range_eq_some, Bool.and_eq_true, Option.any_eq_true,
    answersAt_iff, List.mem_range] at hp
  obtain ⟨⟨⟨source, hsource, hfield⟩, ⟨source', hsource', hanswers⟩⟩, hlt, hbefore⟩ := hp
  obtain rfl := Option.some.inj (hsource.symm.trans hsource')
  obtain ⟨field, hfield⟩ := Option.isSome_iff_exists.mp hfield
  have hfound : q.findField? (some qualifier) name = some (p, field) := by
    refine findField?_some_iff.mpr ⟨source, hsource, by simpa using hanswers, hfield,
      fun i hi s hs ha => ?_⟩
    have := hbefore i hi
    simp only [hs, Option.any_some, answersAt, Option.all_some] at this ha
    simpa [ha] using this
  refine ⟨source, field, hsource, hfield, .field p field.name, ⟨rfl, rfl⟩, ?_⟩
  rw [addSortItem_named, columnInfo?_eq_find? h, hnone]
  simp [Fragments.sortByName, SortItem.qualifier?, SortItem.fieldName, hfound, sortByField, hlt,
    Fragments.unexpected, Except.mapError]

/-- **The search.** Sorting by a qualified name sorts by the field of the first owner that goes by
the qualifier. -/
lemma sortsBy_of_find? {q : Query} (h : q.ColumnsBound) {qualifier name : String} {p : Nat}
    (hp : (q.owners name).find? (q.answersAt qualifier) = some p) (ascending : Bool)
    (place : Option Nat) :
    ∃ source field, q.sources[p]? = some source ∧ source.table.field? name = some field ∧
      q.SortsBy qualifier name ascending place p field.name := by
  rw [owners_find?] at hp
  cases hfind : q.listed? qualifier name with
  | some entry =>
    obtain ⟨p', howner⟩ := ownerOf?_of_listed? hfind
    obtain rfl : p' = p := by simpa [hfind, howner] using hp
    exact sortsBy_column h hfind howner ascending place
  | none => exact sortsBy_table h hfind (by simpa [hfind] using hp) ascending place

/-- Without an owner that goes by the qualifier there is nothing to sort by. -/
lemma not_sortsBy_of_find? {q : Query} (h : q.ColumnsBound) {qualifier name : String}
    (hnone : (q.owners name).find? (q.answersAt qualifier) = none) (ascending : Bool)
    (place : Option Nat) (p : Nat) (field : String) :
    ¬ q.SortsBy qualifier name ascending place p field := by
  rw [owners_find?, Option.or_eq_none_iff] at hnone
  obtain ⟨hcolumn, htable⟩ := hnone
  have hfind : q.listed? qualifier name = none := by
    cases hfind : q.listed? qualifier name with
    | none => rfl
    | some entry =>
      obtain ⟨p', howner⟩ := ownerOf?_of_listed? hfind
      simp [hfind, howner] at hcolumn
  have hmissing : q.findField? (some qualifier) name = none := by
    refine Option.eq_none_iff_forall_ne_some.mpr fun found hfound => ?_
    obtain ⟨source, hsource, ha, hfield, -⟩ := findField?_some_iff.mp hfound
    obtain ⟨hlt, -⟩ := List.getElem?_eq_some_iff.mp hsource
    have := List.find?_range_eq_none.mp htable found.1 hlt
    simp [hsource, answersAt, hfield, show source.answersTo qualifier = true from ha] at this
  rintro ⟨target, -, hadd⟩
  rw [addSortItem_named, columnInfo?_eq_find? h, hfind] at hadd
  simp [Fragments.sortByName, SortItem.qualifier?, SortItem.fieldName, hmissing] at hadd

lemma SortsBy.unique {q : Query} {qualifier name : String} {ascending : Bool} {place : Option Nat}
    {p p' : Nat} {field field' : String} (h : q.SortsBy qualifier name ascending place p field)
    (h' : q.SortsBy qualifier name ascending place p' field') : p = p' ∧ field = field' := by
  obtain ⟨target, htarget, hadd⟩ := h
  obtain ⟨target', htarget', hadd'⟩ := h'
  have hkeys := congrArg Query.ordering (Except.ok.inj (hadd.symm.trans hadd'))
  obtain rfl : target = target' := by simpa [addSortKey] using hkeys
  cases target with
  | number index => exact htarget.elim
  | field position f => exact ⟨htarget.1.symm.trans htarget'.1, htarget.2.symm.trans htarget'.2⟩
  | column index =>
    obtain ⟨column, f, hget, hkind, hp, hf⟩ := htarget
    obtain ⟨column', f', hget', hkind', hp', hf'⟩ := htarget'
    obtain rfl := Option.some.inj (hget.symm.trans hget')
    obtain rfl := ColumnKind.field.inj (hkind.symm.trans hkind')
    exact ⟨Option.some.inj (hp.symm.trans hp'), hf.symm.trans hf'⟩

end Query

namespace Fragments

variable {catalog : Catalog} {parts : Fragments} {scope : Scope} {q : Query}

/-- A table that goes by the qualifier under its alias is the one that the qualifier is bound to. -/
lemma eq_of_hasAlias {tables : List (Source × String)} {items : List Expr} {lookup? : Lookup}
    (hkeyed : keyedTables lookup? items = .ok tables) {qualifier : String} {p i : Nat}
    (hp : (Scope.ofKeyed tables).positionsFor qualifier = [p]) {entry : Source × String}
    (hget : tables[i]? = some entry) (halias : entry.1.hasAlias qualifier = true) : i = p := by
  obtain ⟨item, -, hitem⟩ := keyedTables_mem hkeyed (List.mem_of_getElem? hget)
  obtain ⟨aliasName, ha, hagree⟩ := (Option.any_eq_true _ _).mp halias
  refine (Scope.positionsFor_eq_singleton_iff.mp hp).2 i entry hget ?_
  rwa [source_key_of_alias hitem ha]

/-- The table that a qualifier is bound to goes by it, unless both are empty. -/
lemma answersTo_of_key {item : Expr} {entry : Source × String} {qualifier : String}
    (hitem : source catalog item = .ok entry) (hkey : Name.agree entry.2 qualifier = true)
    (hne : qualifier ≠ "") : entry.1.answersTo qualifier = true := by
  cases ha : entry.1.aliasName with
  | some aliasName =>
    rw [source_key_of_alias hitem ha] at hkey
    simp [Source.answersTo, Source.hasAlias, ha, hkey]
  | none =>
    rcases source_key_of_no_alias hitem ha with hempty | hlookup
    · rw [hempty, Name.agree_iff] at hkey
      exact absurd (Name.fold_eq_empty_iff.mp hkey.symm) hne
    · have hname : entry.1.table.hasName entry.2 = true := by
        simp only [Catalog.lookup?] at hlookup
        simpa using List.find?_some hlookup
      simp [Source.answersTo, Table.hasName, Name.agree_trans hname hkey]

/-- A qualified name that is bound to a field has one table for its qualifier. -/
lemma bound_field {scope : Scope} {v : Variable} {qualifier name field : String} {p : Nat}
    (hv : v.parts = [qualifier, name]) (hbind : scope.bind v = .ok (.field p field)) :
    scope.positionsFor qualifier = [p] ∧ ∃ source found, scope.sources[p]? = some source ∧
      source.table.field? name = some found ∧ field = found.name := by
  rw [Scope.bind_ok_iff, hv] at hbind
  simp only [Scope.bindParts] at hbind
  obtain ⟨-, hkey⟩ := Scope.bindQualified_ok_iff.mp hbind
  obtain ⟨p', hp', hfield⟩ := Scope.bindByKey_ok_iff.mp hkey
  split at hfield
  · simp at hfield
  · obtain ⟨source, found, hsource, hfound, heq⟩ := Scope.bindFieldAt_ok_iff.mp hfield
    obtain ⟨rfl, rfl⟩ := Binding.field.inj heq
    exact ⟨hp', source, found, hsource, hfound, rfl⟩

/-- **Sorting by a bound name.** Where `qualifier.name` is bound to a field, sorting by it sorts by
that field exactly when the bound table is the first owner that goes by the qualifier. So it does
when no other table is called by the qualifier. -/
theorem sortsBy_bound_iff {qualifier name field : String} {p : Nat} {v : Variable}
    (hscope : addTables catalog {} (parts.tables.getD []) = .ok scope)
    (hq : build catalog parts = .ok q) (hv : v.parts = [qualifier, name])
    (hbind : scope.bind v = .ok (.field p field)) (ascending : Bool) (place : Option Nat) :
    (q.SortsBy qualifier name ascending place p field ↔
      (q.owners name).find? (q.answersAt qualifier) = some p) ∧
    (qualifier ≠ "" → (∀ i source, q.sources[i]? = some source →
        source.table.hasName qualifier = true → i = p) →
      q.SortsBy qualifier name ascending place p field) := by
  have hbound := build_columnsBound hq
  obtain ⟨tables, hkeyed, htables, hsources⟩ := build_sources hq
  obtain rfl := Except.ok.inj (htables.symm.trans hscope)
  obtain ⟨hp, source, found, hsource, hfound, hfield⟩ := bound_field hv hbind
  rw [Scope.sources_ofKeyed, ← hsources] at hsource
  constructor
  · constructor
    · intro h
      cases hfind : (q.owners name).find? (q.answersAt qualifier) with
      | none => exact absurd h (q.not_sortsBy_of_find? hbound hfind ascending place p field)
      | some r =>
        obtain ⟨_, _, -, -, hr⟩ := q.sortsBy_of_find? hbound hfind ascending place
        rw [(hr.unique h).1]
    · intro h
      obtain ⟨source', field', hsource', hfield', hsorts⟩ :=
        q.sortsBy_of_find? hbound h ascending place
      obtain rfl := Option.some.inj (hsource.symm.trans hsource')
      obtain rfl := Option.some.inj (hfound.symm.trans hfield')
      rwa [hfield]
  · intro hne honly
    have hanswers : q.answersAt qualifier p = true := by
      obtain ⟨⟨entry, hget, hkey⟩, -⟩ := Scope.positionsFor_eq_singleton_iff.mp hp
      obtain ⟨item, -, hitem⟩ := keyedTables_mem hkeyed (List.mem_of_getElem? hget)
      exact Query.answersAt_iff.mpr
        ⟨entry.1, by simp [hsources, hget], answersTo_of_key hitem hkey hne⟩
    obtain ⟨r, hr⟩ : ∃ r, (q.owners name).find? (q.answersAt qualifier) = some r := by
      refine Option.isSome_iff_exists.mp (List.find?_isSome.mpr ⟨p, ?_, hanswers⟩)
      exact Query.mem_owners hsource (by simp [hfound])
    obtain rfl : r = p := by
      obtain ⟨other, hother, hanswer⟩ := Query.answersAt_iff.mp (by simpa using List.find?_some hr)
      rcases Bool.or_eq_true_iff.mp hanswer with hname | halias
      · exact honly r other hother hname
      · rw [hsources, List.getElem?_map, Option.map_eq_some_iff] at hother
        obtain ⟨entry, hget, rfl⟩ := hother
        exact eq_of_hasAlias hkeyed hp hget halias
    obtain ⟨source', field', hsource', hfield', hsorts⟩ :=
      q.sortsBy_of_find? hbound hr ascending place
    obtain rfl := Option.some.inj (hsource.symm.trans hsource')
    obtain rfl := Option.some.inj (hfound.symm.trans hfield')
    rwa [hfield]

theorem sortsBy_bound_ledger : ∃ scope q,
    addTables ledger {} (ledgerParts.tables.getD []) = .ok scope ∧
    build ledger ledgerParts = .ok q ∧
    scope.bind ⟨["entries", "AMOUNT"], none, none⟩ = .ok (.field 1 "amount") ∧
    q.SortsBy "entries" "AMOUNT" true none 1 "amount" := by
  obtain ⟨scope, hscope, hbind⟩ := Except.exists_of_toOption_map
    (x := addTables ledger {} (ledgerParts.tables.getD []))
    (f := fun scope => scope.bind ⟨["entries", "AMOUNT"], none, none⟩)
    (b := .ok (.field 1 "amount")) (by decide +kernel)
  obtain ⟨q, hq, hfirst⟩ := Except.exists_of_toOption_map (x := build ledger ledgerParts)
    (f := fun q => (q.owners "AMOUNT").find? (q.answersAt "entries")) (b := some 1)
    (by decide +kernel)
  have hsorts := (sortsBy_bound_iff hscope hq rfl hbind true none).1.mpr hfirst
  exact ⟨scope, q, hscope, hq, hbind, hsorts⟩

/-- The tables of `SELECT * FROM accounts a, accounts`. -/
def repeatedParts : Fragments :=
  { columns := some [.named "*"]
    tables := some [.underName (.named "accounts") (.named "a") false, .named "accounts"] }

/-- A table that is also used under an alias: its name is bound to the use without the alias, and
sorting takes the other one. -/
theorem sorting_passes_bound_table : ∃ scope q,
    addTables ledger {} (repeatedParts.tables.getD []) = .ok scope ∧
    build ledger repeatedParts = .ok q ∧
    scope.bind ⟨["accounts", "owner"], none, none⟩ = .ok (.field 1 "owner") ∧
    q.SortsBy "accounts" "owner" true none 0 "owner" ∧
    ¬ q.SortsBy "accounts" "owner" true none 1 "owner" := by
  obtain ⟨scope, hscope, hbind⟩ := Except.exists_of_toOption_map
    (x := addTables ledger {} (repeatedParts.tables.getD []))
    (f := fun scope => scope.bind ⟨["accounts", "owner"], none, none⟩)
    (b := .ok (.field 1 "owner")) (by decide +kernel)
  obtain ⟨q, hq, hfirst⟩ := Except.exists_of_toOption_map (x := build ledger repeatedParts)
    (f := fun q => (q.owners "owner").find? (q.answersAt "accounts")) (b := some 0)
    (by decide +kernel)
  have hname := Except.eq_of_toOption_map hq
    (f := fun q => q.sources[0]?.bind fun source => (source.table.field? "owner").map Field.name)
    (b := some "owner") (by decide +kernel)
  obtain ⟨source, field, hsource, hfield, hsorts⟩ :=
    q.sortsBy_of_find? (build_columnsBound hq) hfirst true none
  have howner : field.name = "owner" := by simpa [hsource, hfield] using hname
  rw [howner] at hsorts
  exact ⟨scope, q, hscope, hq, hbind, hsorts, fun h => absurd (hsorts.unique h).1 (by decide)⟩

end Fragments

end SelectBinding
