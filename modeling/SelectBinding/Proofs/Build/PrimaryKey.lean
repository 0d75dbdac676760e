import SelectBinding.Proofs.Build.WellFormed

/-!
The rows from which a query takes a primary key.

Every key field of the master is looked up on its own, by the name of the table, among the expanded
columns. When the table stands at several positions, the parts of a complete key can so be taken
from different rows: from each part's first column, whatever position this one belongs to.
-/

namespace SelectBinding

namespace ExpandedColumn

/-- The position at which the column is the field `name` of `table`. -/
def rowOf? (c : ExpandedColumn) (table : Table) (name : String) : Option Nat :=
  if c.isFieldOf table name then c.position? else none

lemma isFieldOf_iff {c : ExpandedColumn} {table : Table} {name : String} :
    c.isFieldOf table name = true ↔ ∃ column, c.field? = some column ∧
      column.table.same table = true ∧ Name.agree column.field name = true := by
  unfold isFieldOf
  cases c.field? <;> simp

end ExpandedColumn

namespace Query

/-- Whether the table at `position` is `table` and has a field called `name`. -/
def hasFieldAt (q : Query) (table : Table) (name : String) (position : Nat) : Bool :=
  q.sources[position]?.any fun source =>
    source.table.same table && (source.table.field? name).isSome

/-- The first position at which a column, as it is written, asks for the field `name` of `table`. -/
def rowOf? (q : Query) (table : Table) (name : String) : ColumnKind → Option Nat
  | .field column =>
    if column.table.same table && Name.agree column.field name then column.position else none
  | .asterisk (some position) => if q.hasFieldAt table name position then some position else none
  | .asterisk none => (List.range q.sources.length).find? (q.hasFieldAt table name)
  | .expression _ => none

/-- The position at which the first of the columns that ask for the field `name` of `table` does
so. -/
def keyRow? (q : Query) (table : Table) (name : String) : Option Nat :=
  q.columns.findSome? fun column => q.rowOf? table name column.kind

/-- The position of the expanded column that an entry of the primary key order points at. -/
def entryRow? (q : Query) (entry : Option Nat) : Option Nat :=
  entry.bind fun index => q.expanded[index]?.bind ExpandedColumn.position?

variable {q : Query} {table : Table} {name : String}

lemma hasFieldAt_iff {position : Nat} :
    q.hasFieldAt table name position = true ↔ ∃ source, q.sources[position]? = some source ∧
      source.table.same table = true ∧ (source.table.field? name).isSome = true := by
  unfold hasFieldAt
  cases q.sources[position]? <;> simp

/-! ### Through the expansion -/

lemma findSome?_fieldsAt (q : Query) (table : Table) (name : String) (index : Nat) (visible : Bool)
    (position : Nat) :
    (q.fieldsAt index visible position).findSome? (·.rowOf? table name) =
      if q.hasFieldAt table name position then some position else none := by
  rw [fieldsAt, hasFieldAt]
  cases q.sources[position]? with
  | none => rfl
  | some source =>
    have hrow (fields : List Field) :
        (fields.findSome? fun field =>
          if source.table.same table && Name.agree field.name name then some position else none) =
          if source.table.same table && (fields.find? fun field =>
            Name.agree field.name name).isSome then some position else none := by
      induction fields with
      | nil => simp
      | cons field rest ih =>
        rw [List.findSome?_cons, List.find?_cons, ih]
        cases source.table.same table <;> cases Name.agree field.name name <;> rfl
    rw [List.findSome?_map]
    exact hrow source.table.fields

/-- A column expands to entries the first of which is where the column asks for the field. -/
lemma findSome?_expandColumn (q : Query) (table : Table) (name : String) (index : Nat)
    (column : Column) :
    (q.expandColumn index column).findSome? (·.rowOf? table name) =
      q.rowOf? table name column.kind := by
  unfold expandColumn rowOf?
  cases column.kind with
  | field field => exact List.findSome?_singleton
  | expression e => rfl
  | asterisk scope =>
    cases scope with
    | some position => exact findSome?_fieldsAt q table name index column.visible position
    | none =>
      simp only
      induction List.range q.sources.length with
      | nil => rfl
      | cons position rest ih =>
        rw [List.flatMap_cons, List.findSome?_append, findSome?_fieldsAt, ih, List.find?_cons]
        cases q.hasFieldAt table name position <;> rfl

lemma findSome?_expanded (q : Query) (table : Table) (name : String) :
    q.expanded.findSome? (·.rowOf? table name) = q.keyRow? table name := by
  have hfrom (first : Nat) (columns : List Column) :
      (q.expandFrom first columns).findSome? (·.rowOf? table name) =
        columns.findSome? fun column => q.rowOf? table name column.kind := by
    induction columns generalizing first with
    | nil => rfl
    | cons column rest ih =>
      rw [expandFrom, List.findSome?_append, findSome?_expandColumn, ih, List.findSome?_cons]
      cases q.rowOf? table name column.kind <;> rfl
  exact hfrom 0 q.columns

/-! ### Where fields stand -/

/-- An expanded field of a query whose columns are bound is one of the table at its position. -/
lemma ColumnsBound.field_of_mem_expanded (h : q.ColumnsBound) {c : ExpandedColumn}
    (hc : c ∈ q.expanded) {column : FieldColumn} (hfield : c.field? = some column) :
    ∃ p source, column.position = some p ∧ q.sources[p]? = some source ∧
      column.table = source.table := by
  have hfrom (first : Nat) (columns : List Column)
      (hcolumns : ∀ column ∈ columns, column.kind.WellBound q.sources)
      (hc : c ∈ q.expandFrom first columns) : ∃ p source, column.position = some p ∧
        q.sources[p]? = some source ∧ column.table = source.table := by
    have hfields (index : Nat) (visible : Bool) (position : Nat)
        (hc : c ∈ q.fieldsAt index visible position) : ∃ p source, column.position = some p ∧
          q.sources[p]? = some source ∧ column.table = source.table := by
      unfold fieldsAt at hc
      split at hc
      · cases hc
      · rename_i source hsource
        obtain ⟨field, -, rfl⟩ := List.mem_map.mp hc
        obtain rfl := Option.some.inj hfield
        exact ⟨position, source, rfl, hsource, rfl⟩
    induction columns generalizing first with
    | nil => cases hc
    | cons written rest ih =>
      rcases List.mem_append.mp hc with hc | hc
      · have hbound := hcolumns written List.mem_cons_self
        unfold expandColumn at hc
        split at hc
        · rename_i hkind
          obtain rfl := List.mem_singleton.mp hc
          obtain rfl := Option.some.inj hfield
          rw [hkind] at hbound
          obtain ⟨p, source, hp, hsource, htable, -⟩ := hbound
          exact ⟨p, source, hp, hsource, htable⟩
        · exact hfields _ _ _ hc
        · obtain ⟨position, -, hc⟩ := List.mem_flatMap.mp hc
          exact hfields _ _ _ hc
        · obtain rfl := List.mem_singleton.mp hc
          cases hfield
      · exact ih (first + 1) (fun column hmem => hcolumns column (List.mem_cons_of_mem _ hmem)) hc
  exact hfrom 0 q.columns h hc

lemma ColumnsBound.position?_of_isFieldOf (h : q.ColumnsBound) {c : ExpandedColumn}
    (hc : c ∈ q.expanded) (hfield : c.isFieldOf table name = true) :
    ∃ p, c.position? = some p := by
  obtain ⟨column, hcolumn, -⟩ := ExpandedColumn.isFieldOf_iff.mp hfield
  obtain ⟨p, -, hp, -⟩ := h.field_of_mem_expanded hc hcolumn
  exact ⟨p, by simp [ExpandedColumn.position?, hcolumn, hp]⟩

/-- What is found of a key field is the first entry for it, and so the first column for it. -/
lemma ColumnsBound.entryRow?_findIdx? (h : q.ColumnsBound) (table : Table) (name : String) :
    q.entryRow? (q.expanded.findIdx? fun c => c.isFieldOf table name) = q.keyRow? table name := by
  have hentries (l : List ExpandedColumn)
      (hl : ∀ c ∈ l, c.isFieldOf table name = true → c.position?.isSome = true) :
      ((l.findIdx? fun c => c.isFieldOf table name).bind fun i =>
        l[i]?.bind ExpandedColumn.position?) = l.findSome? (·.rowOf? table name) := by
    induction l with
    | nil => rfl
    | cons c rest ih =>
      have hrest := ih fun c hmem => hl c (List.mem_cons_of_mem _ hmem)
      rw [List.findIdx?_cons, List.findSome?_cons, ExpandedColumn.rowOf?, ← hrest]
      cases hc : c.isFieldOf table name with
      | true =>
        obtain ⟨p, hp⟩ := Option.isSome_iff_exists.mp (hl c List.mem_cons_self hc)
        simp [hp]
      | false =>
        cases rest.findIdx? fun c => c.isFieldOf table name <;> simp
  rw [← findSome?_expanded, entryRow?]
  refine hentries q.expanded fun c hmem hc => ?_
  obtain ⟨p, hp⟩ := h.position?_of_isFieldOf hmem hc
  exact Option.isSome_iff_exists.mpr ⟨p, hp⟩

/-- A column takes a field of `table` from a position at which `table` stands. -/
lemma hasFieldAt_of_rowOf? {kind : ColumnKind} (h : kind.WellBound q.sources) {p : Nat}
    (hrow : q.rowOf? table name kind = some p) : q.hasFieldAt table name p = true := by
  unfold rowOf? at hrow
  split at hrow
  · rename_i column
    obtain ⟨position, source, hposition, hsource, htable, field, -, -, hfield⟩ := h
    obtain ⟨hnames, hp⟩ := Option.ite_none_right_eq_some.mp hrow
    rw [Bool.and_eq_true] at hnames
    obtain rfl := Option.some.inj (hposition.symm.trans hp)
    have hdeclared : source.table.field? name = some field := by
      rw [← hfield, Table.field?, Table.field?]
      simp only [Name.agree_congr_right hnames.2]
    exact hasFieldAt_iff.mpr ⟨source, hsource, htable ▸ hnames.1, by rw [hdeclared]; rfl⟩
  · obtain ⟨hthere, hp⟩ := Option.ite_none_right_eq_some.mp hrow
    rwa [Option.some.inj hp] at hthere
  · exact List.find?_some hrow
  · cases hrow

lemma ColumnsBound.hasFieldAt_keyRow? (h : q.ColumnsBound) {p : Nat}
    (hrow : q.keyRow? table name = some p) : q.hasFieldAt table name p = true := by
  obtain ⟨column, hmem, hrow⟩ := List.exists_of_findSome?_eq_some hrow
  exact hasFieldAt_of_rowOf? (h column hmem) hrow

/-- The primary key order points, for every key field, at the row of the first column for it. -/
lemma ColumnsBound.map_entryRow? (h : q.ColumnsBound) (hmaster : q.master? = some table) :
    q.primaryKeyOrder.map q.entryRow? =
      table.primaryKey.map fun key => q.keyRow? table key.name := by
  rw [primaryKeyOrder, hmaster, List.map_map]
  exact List.map_congr_left fun key _ => h.entryRow?_findIdx? table key.name

/-- Where every part of the key is found, every part has a row, and the master stands there. -/
lemma ColumnsBound.rows_of_complete (h : q.ColumnsBound) (hmaster : q.master? = some table)
    (hcomplete : q.primaryKeyCount = table.primaryKey.length) {key : Field}
    (hkey : key ∈ table.primaryKey) :
    ∃ p, q.keyRow? table key.name = some p ∧ q.hasFieldAt table key.name p = true := by
  have hfound : ∀ entry ∈ q.primaryKeyOrder, entry.isSome = true := by
    rw [← List.countP_eq_length]
    simpa [primaryKeyOrder, hmaster, primaryKeyCount] using hcomplete
  have hentry : (q.expanded.findIdx? fun c => c.isFieldOf table key.name) ∈ q.primaryKeyOrder := by
    rw [primaryKeyOrder, hmaster]
    exact List.mem_map_of_mem hkey
  obtain ⟨index, hindex⟩ := Option.isSome_iff_exists.mp (hfound _ hentry)
  obtain ⟨hlt, hfield, -⟩ := List.findIdx?_eq_some_iff_getElem.mp hindex
  obtain ⟨p, hp⟩ := h.position?_of_isFieldOf (List.getElem_mem hlt) hfield
  have hrow := h.entryRow?_findIdx? table key.name
  rw [hindex, entryRow?, Option.bind_some, List.getElem?_eq_getElem hlt, Option.bind_some, hp]
    at hrow
  exact ⟨p, hrow.symm, h.hasFieldAt_keyRow? hrow.symm⟩

end Query

namespace Fragments

variable {lookup? : Lookup} {parts : Fragments} {q : Query} {table : Table}

/-- **Complete keys.** When as many key fields are found as the master of a built query has, each of
them is taken from the first column that asks for it, at a position where the master stands. So all
of them point into one row exactly when these first columns agree in their position, which they do
when the master stands at one position only. -/
theorem complete_key_row_iff (hq : build lookup? parts = .ok q) (hmaster : q.master? = some table)
    (hcomplete : q.primaryKeyCount = table.primaryKey.length) :
    (∀ key ∈ table.primaryKey, ∃ p, q.keyRow? table key.name = some p ∧
      q.hasFieldAt table key.name p = true) ∧
    ((∃ p, ∀ entry ∈ q.primaryKeyOrder, q.entryRow? entry = some p) ↔
      ∃ p, ∀ key ∈ table.primaryKey, q.keyRow? table key.name = some p) ∧
    (q.sources.length = 1 → ∃ p, ∀ entry ∈ q.primaryKeyOrder, q.entryRow? entry = some p) := by
  have hbound := build_columnsBound hq
  have hrows (key : Field) (hkey : key ∈ table.primaryKey) :=
    hbound.rows_of_complete hmaster hcomplete hkey
  have hone : (∃ p, ∀ entry ∈ q.primaryKeyOrder, q.entryRow? entry = some p) ↔
      ∃ p, ∀ key ∈ table.primaryKey, q.keyRow? table key.name = some p := by
    refine exists_congr fun p => ?_
    have hentries : (∀ row ∈ q.primaryKeyOrder.map q.entryRow?, row = some p) ↔
        ∀ row ∈ table.primaryKey.map fun key => q.keyRow? table key.name, row = some p := by
      rw [hbound.map_entryRow? hmaster]
    simpa only [List.forall_mem_map] using hentries
  refine ⟨hrows, hone, fun hsource => hone.mpr ⟨0, fun key hkey => ?_⟩⟩
  obtain ⟨p, hrow, hthere⟩ := hrows key hkey
  have hlt : p < q.sources.length := by
    obtain ⟨source, hsource, -⟩ := Query.hasFieldAt_iff.mp hthere
    exact (List.getElem?_eq_some_iff.mp hsource).1
  obtain rfl : p = 0 := by omega
  exact hrow

/-- A table whose key has two fields. -/
def orderLines : Catalog :=
  ⟨[{ name := "items"
      fields := [{ name := "order_id", primaryKey := true }, { name := "line", primaryKey := true },
        { name := "product" }] }]⟩

/-- The parts of `SELECT a.order_id, b.product, <line> FROM items a, items b`. -/
def pairedLines (line : String) : Fragments :=
  { columns := some [.named "a.order_id", .named "b.product", .named line]
    tables := some [.underName (.named "items") (.named "a") false,
      .underName (.named "items") (.named "b") false] }

theorem complete_key_row_lines : ∃ q table, build orderLines (pairedLines "a.line") = .ok q ∧
    q.master? = some table ∧ q.primaryKeyCount = table.primaryKey.length ∧
    (∀ key ∈ table.primaryKey, ∃ p, q.keyRow? table key.name = some p ∧
      q.hasFieldAt table key.name p = true) ∧
    ((∃ p, ∀ entry ∈ q.primaryKeyOrder, q.entryRow? entry = some p) ↔
      ∃ p, ∀ key ∈ table.primaryKey, q.keyRow? table key.name = some p) ∧
    (q.sources.length = 1 → ∃ p, ∀ entry ∈ q.primaryKeyOrder, q.entryRow? entry = some p) := by
  obtain ⟨q, hq, hmaster⟩ := Except.exists_of_toOption_map
    (x := build orderLines (pairedLines "a.line")) (f := Query.master?)
    (b := orderLines.lookup? "items") (by decide +kernel)
  have hcount := Except.eq_of_toOption_map hq (f := Query.primaryKeyCount) (b := 2)
    (by decide +kernel)
  exact ⟨q, _, hq, hmaster, hcount, complete_key_row_iff hq hmaster hcount⟩

/-- The key is complete, and its parts are taken from the rows of two positions. -/
theorem key_of_two_rows : ∃ q table, build orderLines (pairedLines "b.line") = .ok q ∧
    q.master? = some table ∧ q.primaryKeyCount = table.primaryKey.length ∧
    ¬ ∃ p, ∀ entry ∈ q.primaryKeyOrder, q.entryRow? entry = some p := by
  obtain ⟨q, hq, hmaster⟩ := Except.exists_of_toOption_map
    (x := build orderLines (pairedLines "b.line")) (f := Query.master?)
    (b := orderLines.lookup? "items") (by decide +kernel)
  have hcount := Except.eq_of_toOption_map hq (f := Query.primaryKeyCount) (b := 2)
    (by decide +kernel)
  have hrows := Except.eq_of_toOption_map hq (f := fun q => q.primaryKeyOrder.map q.entryRow?)
    (b := [some 0, some 1]) (by decide +kernel)
  refine ⟨q, _, hq, hmaster, hcount, fun ⟨p, hp⟩ => ?_⟩
  have hboth : ∀ row ∈ q.primaryKeyOrder.map q.entryRow?, row = some p := by
    simpa only [List.forall_mem_map] using hp
  rw [hrows] at hboth
  simp at hboth
  omega

end Fragments

end SelectBinding
