import SelectBinding.Proofs.Build.Targets
import SelectBinding.Proofs.Scope.Casing

/-!
Queries that are built without the case of letters.

The parts of a statement may spell a name in any case of its letters. Building mirrors folding at
every stage: the folded parts make the folded query, or fail as the parts do. So parts that are the
same after folding make queries that are.
-/

namespace SelectBinding

/-! ### Folding -/

/-- The criterion with its name folded. -/
def SortItem.folded (item : SortItem) : SortItem :=
  { item with parts := item.parts.map Name.fold }

/-- The filter and the sorting with their names folded. -/
def Clauses.folded (clauses : Clauses) : Clauses :=
  { filter := clauses.filter.map Expr.folded
    ordering := clauses.ordering.map SortItem.folded }

/-- The parts of a statement with their names and aliases folded. -/
def Fragments.folded (parts : Fragments) : Fragments :=
  { columns := parts.columns.map (List.map Expr.folded)
    tables := parts.tables.map (List.map Expr.folded)
    clauses := parts.clauses.map Clauses.folded }

/-- What a column stands for, the names of an expression folded. -/
def ColumnKind.folded : ColumnKind → ColumnKind
  | .expression e => .expression e.folded
  | kind => kind

/-- The column under its folded alias. -/
def Column.folded (column : Column) : Column :=
  { column with kind := column.kind.folded, aliasName := column.aliasName.map Name.fold }

/-- The query with its aliases and the names of its expressions folded. Its tables, what its columns
and its names are bound to, and its sorting are kept. -/
def Query.folded (q : Query) : Query :=
  { q with
    sources := q.sources.map Source.folded
    columns := q.columns.map Column.folded
    filter := q.filter.map Expr.folded }

namespace Fragments

variable (catalog : Catalog) (scope : Scope) (q : Query)

/-! ### Tables -/

lemma givenAlias_fold (name : String) :
    Query.givenAlias (Name.fold name) = (Query.givenAlias name).map Name.fold := by
  by_cases hname : name = ""
  · subst hname
    rfl
  · have hfolded : Name.fold name ≠ "" := by rwa [ne_eq, Name.fold_eq_empty_iff]
    simp [Query.givenAlias, String.isEmpty_iff, hname, hfolded]

lemma bind_givenAlias_fold (aliasName : Option String) :
    (aliasName.map Name.fold).bind Query.givenAlias =
      (aliasName.bind Query.givenAlias).map Name.fold := by
  cases aliasName with
  | none => rfl
  | some name => exact givenAlias_fold name

/-- An item and its alias, both folded. -/
def foldedItem {α : Type} (fold : α → α) (item : α × Option String) : α × Option String :=
  (fold item.1, item.2.map Name.fold)

lemma tableItem_folded (item : Expr) :
    Mirrors (foldedItem Variable.folded) (tableItem item) (tableItem item.folded) := by
  cases item with
  | var v => exact .ok _
  | underName expr name explicitAs =>
    cases expr with
    | var v =>
      cases name with
      | var aliasName =>
        refine Except.Alike.ok ?_
        rw [foldedItem, Option.map_some, ← Variable.name_folded]
      | _ => exact .error ⟨rfl, rfl⟩
    | _ => exact .error ⟨rfl, rfl⟩
  | _ => exact .error ⟨rfl, rfl⟩

/-- A table and its key, both folded. -/
def foldedEntry (entry : Source × String) : Source × String :=
  (entry.1.folded, Name.fold entry.2)

lemma source_folded (item : Expr) :
    Mirrors foldedEntry (source catalog item) (source catalog item.folded) := by
  unfold source
  rcases (tableItem_folded item).cases with ⟨⟨v, aliasName⟩, h, h'⟩ | ⟨e, e', h, h', hplace⟩
  · simp only [h, h', foldedItem, Variable.name_folded, Catalog.lookup?_fold]
    cases catalog.lookup? v.name with
    | none => exact .error ⟨rfl, rfl⟩
    | some table =>
      refine Except.Alike.ok ?_
      rw [bind_givenAlias_fold]
      cases aliasName <;> rfl
  · simp only [h, h']
    exact .error hplace

lemma addTables_folded (items : List Expr) :
    Mirrors Scope.folded (addTables catalog scope items)
      (addTables catalog scope.folded (items.map Expr.folded)) := by
  induction items generalizing scope with
  | nil => exact .ok _
  | cons item rest ih =>
    simp only [List.map_cons, addTables]
    rcases (source_folded catalog item).cases with
      ⟨⟨found, key⟩, h, h'⟩ | ⟨e, e', h, h', hplace⟩
    · simp only [h, h', foldedEntry]
      have hscope : ((scope.folded.register (Name.fold key) scope.folded.sources.length).addTable
          found.folded) = ((scope.register key scope.sources.length).addTable found).folded := by
        simp [Scope.register, Scope.addTable, Scope.folded]
      rw [hscope]
      exact ih _
    · simp only [h, h']
      exact .error hplace

lemma startQuery_folded : startQuery scope.folded = (startQuery scope).folded := by
  unfold startQuery Scope.folded Query.folded
  rcases scope.sources with _ | ⟨first, _ | ⟨second, rest⟩⟩ <;> rfl

/-! ### Columns -/

lemma columnItem_folded (item : Expr) :
    Mirrors (foldedItem Expr.folded) (columnItem item) (columnItem item.folded) := by
  cases item with
  | underName expr name explicitAs =>
    cases name with
    | var aliasName =>
      refine Except.Alike.ok ?_
      rw [foldedItem, Option.map_some, ← Variable.name_folded]
      rfl
    | _ => exact .error ⟨rfl, rfl⟩
  | _ => exact .ok _

lemma mayBeColumn_folded (e : Expr) : mayBeColumn e.folded = mayBeColumn e := by
  cases e <;> rfl

lemma added_folded (kind : ColumnKind) (visible : Bool) :
    Mirrors Query.folded (.ok (q.addColumn kind visible))
      (.ok (q.folded.addColumn kind.folded visible)) := by
  refine Except.Alike.ok ?_
  simp [Query.addColumn, Query.folded, Column.folded]

lemma setColumnAlias_folded (index : Nat) (name : String) :
    q.folded.setColumnAlias index (Name.fold name) =
      (q.setColumnAlias index name).map Query.folded := by
  simp only [Query.setColumnAlias, Query.changeColumn, Query.folded, List.getElem?_map]
  cases q.columns[index]? with
  | none => rfl
  | some column => simp [Except.map, List.map_set, Column.folded, givenAlias_fold, Query.folded]

/-- A change that is refused is refused for the image as well. -/
lemma unexpected_mirrors {α : Type} (image : α → α) (x : Except QueryError α) :
    Mirrors image (unexpected x) (unexpected (x.map image)) := by
  cases x with
  | ok a => exact .ok _
  | error e => exact .error ⟨rfl, rfl⟩

lemma addBound_folded (v : Variable) :
    Mirrors Query.folded (addBound q v) (addBound q.folded v.folded) := by
  -- Folding keeps the binding, so both sides come to the same case.
  obtain ⟨parts, position, binding⟩ := v
  rcases binding with _ | ⟨p, field⟩ | p | _
  · exact .error ⟨rfl, rfl⟩
  · have hsource : q.folded.sources[p]? = (q.sources[p]?).map Source.folded := List.getElem?_map
    simp only [addBound, Variable.folded, hsource]
    cases hs : q.sources[p]? with
    | none => exact .error ⟨rfl, rfl⟩
    | some source =>
      rw [hs, Option.map_some] at hsource
      have hfolded : q.folded.addField source.folded.table field (some p) true =
          .ok (q.folded.addColumn (.field ⟨source.table, field, some p⟩) true) :=
        addField_of_source hsource
      simp only [Option.map_some, addField_of_source hs, hfolded]
      exact added_folded q (.field ⟨source.table, field, some p⟩) true
  · exact added_folded q (.asterisk (some p)) true
  · have hempty : q.folded.sources.isEmpty = q.sources.isEmpty := List.isEmpty_map
    simp only [addBound, Variable.folded, hempty]
    split
    · exact .error ⟨rfl, rfl⟩
    · exact added_folded q (.asterisk none) true

lemma addUnnamed_folded (e : Expr) :
    Mirrors Query.folded (addUnnamed scope q e) (addUnnamed scope.folded q.folded e.folded) := by
  unfold addUnnamed
  rcases (scope.resolve_folded true e).cases with ⟨e', h, h'⟩ | ⟨e, e', h, h', hplace⟩
  · simp only [h, h']
    cases e' with
    | var v => exact addBound_folded q v
    | _ => exact added_folded q (.expression _) true
  · simp only [h, h']
    exact .error hplace

lemma addColumn_folded (item : Expr) :
    Mirrors Query.folded (addColumn scope q item)
      (addColumn scope.folded q.folded item.folded) := by
  have hlength : q.folded.columns.length = q.columns.length := List.length_map _
  unfold addColumn
  rcases (columnItem_folded item).cases with
    ⟨⟨expr, aliasName⟩, h, h'⟩ | ⟨e, e', h, h', hplace⟩
  · simp only [h, h', foldedItem, mayBeColumn_folded, hlength]
    split
    · rcases (addUnnamed_folded scope q expr).cases with
        ⟨q', h, h'⟩ | ⟨e, e', h, h', hplace⟩
      · simp only [h, h']
        cases aliasName with
        | none => exact .ok _
        | some name =>
          simp only [Option.map_some, setColumnAlias_folded]
          exact unexpected_mirrors _ _
      · simp only [h, h']
        exact .error hplace
    · exact .error ⟨rfl, rfl⟩
  · simp only [h, h']
    exact .error hplace

lemma addColumns_folded (items : List Expr) :
    Mirrors Query.folded (addColumns scope q items)
      (addColumns scope.folded q.folded (items.map Expr.folded)) := by
  induction items generalizing q with
  | nil => exact .ok _
  | cons item rest ih =>
    simp only [List.map_cons, addColumns]
    rcases (addColumn_folded scope q item).cases with ⟨q', h, h'⟩ | ⟨e, e', h, h', hplace⟩
    · simp only [h, h']
      exact ih q'
    · simp only [h, h']
      exact .error hplace

lemma addFilter_folded (filter : Option Expr) :
    Mirrors Query.folded (addFilter scope q filter)
      (addFilter scope.folded q.folded (filter.map Expr.folded)) := by
  cases filter with
  | none => exact .ok _
  | some e => exact (scope.resolve_folded false e).map fun _ => rfl

end Fragments

/-! ### Sorting -/

namespace SortItem

lemma fieldName_folded (item : SortItem) : item.folded.fieldName = Name.fold item.fieldName :=
  Name.last_map_fold item.parts

lemma qualifier?_folded (item : SortItem) :
    item.folded.qualifier? = item.qualifier?.map Name.fold := by
  simp only [qualifier?, folded, ← List.map_reverse]
  rcases item.parts.reverse with _ | ⟨last, _ | ⟨qualifier, rest⟩⟩ <;> rfl

end SortItem

lemma Source.answersTo_folded (source : Source) (name : String) :
    source.folded.answersTo (Name.fold name) = source.answersTo name := by
  simp only [answersTo, hasAlias, folded, Table.hasName_fold, Name.agree_fold_right,
    Name.any_agree_map_fold]

/-- The expanded column under its folded alias. -/
def ExpandedColumn.folded (c : ExpandedColumn) : ExpandedColumn :=
  { c with aliasName := c.aliasName.map Name.fold }

namespace Query

variable (q : Query)

/-- A column goes by the same name, up to its case. A generated name is the same, case and all. -/
lemma columnAlias?_folded (index : Nat) :
    (q.folded.columnAlias? index).map Name.fold = (q.columnAlias? index).map Name.fold := by
  have hkind (column : Column) : column.folded.kind.isExpression = column.kind.isExpression := by
    obtain ⟨kind, aliasName, visible⟩ := column
    cases kind <;> rfl
  have hcount : ((q.folded.columns.take (index + 1)).countP fun c => c.kind.isExpression) =
      (q.columns.take (index + 1)).countP fun c => c.kind.isExpression := by
    simp only [folded, ← List.map_take, List.countP_map, Function.comp_def, hkind]
  have hget : q.folded.columns[index]? = (q.columns[index]?).map Column.folded := List.getElem?_map
  unfold columnAlias?
  rw [hcount, hget]
  rcases q.columns[index]? with _ | ⟨kind, _ | aliasName, visible⟩
  · rfl
  · cases kind <;> rfl
  · simp [Column.folded]

lemma fieldsAt_folded : q.folded.fieldsAt = q.fieldsAt := by
  funext index visible position
  simp only [fieldsAt, folded, List.getElem?_map]
  cases q.sources[position]? <;> rfl

lemma expandColumn_folded (index : Nat) (column : Column) :
    (q.folded.expandColumn index column.folded).map ExpandedColumn.folded =
      (q.expandColumn index column).map ExpandedColumn.folded := by
  obtain ⟨kind, aliasName, visible⟩ := column
  rcases kind with field | (_ | position) | e
  · simp [expandColumn, Column.folded, ColumnKind.folded, ExpandedColumn.folded, Function.comp_def]
  · have hlength : q.folded.sources.length = q.sources.length := List.length_map _
    simp [expandColumn, Column.folded, ColumnKind.folded, fieldsAt_folded, hlength]
  · simp [expandColumn, Column.folded, ColumnKind.folded, fieldsAt_folded]
  · simp [expandColumn, Column.folded, ColumnKind.folded, ExpandedColumn.folded,
      columnAlias?_folded]

/-- **Expansion.** The columns are written out in the same way, up to the case of aliases. -/
lemma expanded_folded :
    q.folded.expanded.map ExpandedColumn.folded = q.expanded.map ExpandedColumn.folded := by
  have hfrom (index : Nat) (columns : List Column) :
      (q.folded.expandFrom index (columns.map Column.folded)).map ExpandedColumn.folded =
        (q.expandFrom index columns).map ExpandedColumn.folded := by
    induction columns generalizing index with
    | nil => rfl
    | cons column rest ih =>
      simp only [List.map_cons, expandFrom, List.map_append, expandColumn_folded, ih]
  exact hfrom 0 q.columns

/-- A column under its folded alias answers to the same names. -/
lemma answers_foldedColumn (qualifier : Option String) (name : String) (c : ExpandedColumn) :
    q.answers qualifier name c.folded = q.answers qualifier name c := by
  obtain ⟨source, aliasName, visible, column, fromAsterisk⟩ := c
  cases aliasName with
  | none => rfl
  | some aliasName =>
    simp only [answers, ExpandedColumn.folded, Option.map_some, Name.agree_fold_left]

/-- A column answers to a name after folding when it does before. -/
lemma answers_folded (qualifier : Option String) (name : String) (c : ExpandedColumn) :
    q.folded.answers (qualifier.map Name.fold) (Name.fold name) c = q.answers qualifier name c := by
  have halias : q.folded.tableAlias? = fun p => (q.tableAlias? p).map Name.fold := by
    funext p
    simp only [tableAlias?, folded, List.getElem?_map]
    cases q.sources[p]? <;> rfl
  obtain ⟨source, aliasName, visible, column, fromAsterisk⟩ := c
  cases aliasName with
  | some aliasName => simp only [answers, Option.isNone_map, Name.agree_fold_right]
  | none =>
    cases source with
    | expression index => rfl
    | field f =>
      simp only [answers, halias, Name.agree_fold_right]
      cases qualifier with
      | none => rfl
      | some qualifier =>
        simp only [Option.map_some, Table.hasName_fold, Name.agree_fold_right]
        cases f.position with
        | none => rfl
        | some p => simp only [Option.bind_some, Name.any_agree_map_fold]

lemma ownColumns_folded :
    q.folded.ownColumns.map ExpandedColumn.folded = q.ownColumns.map ExpandedColumn.folded := by
  have hown (q : Query) : q.ownColumns.map ExpandedColumn.folded =
      (q.expanded.map ExpandedColumn.folded).filter fun c => !c.fromAsterisk := by
    have heq : q.ownColumns = q.expanded.filter fun c => !c.fromAsterisk :=
      (q.expandFrom_filter 0 q.columns).symm
    rw [heq, List.filter_map]
    rfl
  rw [hown, hown, expanded_folded]

/-- The same column answers to a criterion. -/
lemma ownColumnFor?_folded (item : SortItem) :
    (q.folded.ownColumnFor? item.folded).map ExpandedColumn.folded =
      (q.ownColumnFor? item).map ExpandedColumn.folded := by
  -- The search does not see the case of aliases, so it may be made among the folded columns, which
  -- are the same ones on both sides.
  have hfind (l : List ExpandedColumn) :
      (l.find? (q.answers item.qualifier? item.fieldName)).map ExpandedColumn.folded =
        (l.map ExpandedColumn.folded).find? (q.answers item.qualifier? item.fieldName) := by
    rw [List.find?_map]
    congr 2
    funext c
    exact (q.answers_foldedColumn item.qualifier? item.fieldName c).symm
  have hanswers : q.folded.answers item.folded.qualifier? item.folded.fieldName =
      q.answers item.qualifier? item.fieldName := by
    funext c
    rw [item.qualifier?_folded, item.fieldName_folded, answers_folded]
  rw [ownColumnFor?, ownColumnFor?, hanswers, hfind, hfind, ownColumns_folded]

lemma findField?_folded (qualifier : Option String) (name : String) :
    q.folded.findField? (qualifier.map Name.fold) (Name.fold name) =
      q.findField? qualifier name := by
  have hfrom (position : Nat) (sources : List Source) :
      findFieldFrom position (qualifier.map Name.fold) (Name.fold name)
          (sources.map Source.folded) = findFieldFrom position qualifier name sources := by
    induction sources generalizing position with
    | nil => rfl
    | cons source rest ih =>
      have hall : (qualifier.map Name.fold).all source.folded.answersTo =
          qualifier.all source.answersTo := by
        cases qualifier with
        | none => rfl
        | some qualifier => exact source.answersTo_folded qualifier
      simp only [List.map_cons, findFieldFrom, hall, Source.table_folded, Table.field?_fold, ih]
  exact hfrom 0 q.sources

/-- **One criterion.** What a criterion sorts by is the same after folding. -/
lemma sortTarget?_folded (item : SortItem) :
    q.folded.sortTarget? item.folded = q.sortTarget? item := by
  have hcolumn : (q.folded.ownColumnFor? item.folded).map ExpandedColumn.column =
      (q.ownColumnFor? item).map ExpandedColumn.column := by
    have hown := congrArg (Option.map ExpandedColumn.column) (q.ownColumnFor?_folded item)
    rwa [Option.map_map, Option.map_map] at hown
  have hlength : q.folded.expanded.length = q.expanded.length := by
    simpa using congrArg List.length q.expanded_folded
  have hnumber : item.folded.number = item.number := rfl
  rw [sortTarget?_eq, sortTarget?_eq, hlength, hnumber, item.qualifier?_folded,
    item.fieldName_folded, findField?_folded]
  cases hfolded : q.folded.ownColumnFor? item.folded with
  | none =>
    rw [hfolded, Option.map_none, eq_comm, Option.map_eq_none_iff] at hcolumn
    rw [hcolumn]
  | some c' =>
    rw [hfolded, Option.map_some, eq_comm, Option.map_eq_some_iff] at hcolumn
    obtain ⟨c, hc, heq⟩ := hcolumn
    rw [hc]
    exact congrArg (fun index => some (SortTarget.column index)) heq.symm

end Query

namespace Fragments

lemma addSortItem_folded (q : Query) (item : SortItem) :
    Mirrors Query.folded (addSortItem q item) (addSortItem q.folded item.folded) := by
  cases htarget : q.sortTarget? item with
  | some target =>
    have hfolded := (q.sortTarget?_folded item).trans htarget
    rw [Query.addSortItem_ok_iff.mpr ⟨target, htarget, rfl⟩,
      Query.addSortItem_ok_iff.mpr ⟨target, hfolded, rfl⟩]
    exact .ok _
  | none =>
    have hfolded := (q.sortTarget?_folded item).trans htarget
    obtain ⟨e, h, hkind, hplace⟩ := q.addSortItem_error htarget
    obtain ⟨e', h', hkind', hplace'⟩ := q.folded.addSortItem_error hfolded
    rw [h, h']
    exact .error ⟨hkind'.trans hkind.symm, hplace'.trans hplace.symm⟩

lemma addOrdering_folded (q : Query) (items : List SortItem) :
    Mirrors Query.folded (addOrdering q items)
      (addOrdering q.folded (items.map SortItem.folded)) := by
  induction items generalizing q with
  | nil => exact .ok _
  | cons item rest ih =>
    simp only [List.map_cons, addOrdering]
    rcases (addSortItem_folded q item).cases with ⟨q', h, h'⟩ | ⟨e, e', h, h', hplace⟩
    · simp only [h, h']
      exact ih q'
    · simp only [h, h']
      exact .error hplace

/-! ### The whole -/

lemma addClauses_folded (scope : Scope) (q : Query) (clauses : Clauses) :
    Mirrors Query.folded (addClauses scope q clauses)
      (addClauses scope.folded q.folded clauses.folded) := by
  unfold addClauses
  rcases (addFilter_folded scope q clauses.filter).cases with
    ⟨q', h, h'⟩ | ⟨e, e', h, h', hplace⟩
  · simp only [h, Clauses.folded, h']
    exact addOrdering_folded q' clauses.ordering
  · simp only [h, Clauses.folded, h']
    exact .error hplace

/-- **Folded parts.** The folded parts of a statement make the folded query. -/
lemma build_folded (catalog : Catalog) (parts : Fragments) :
    Mirrors Query.folded (build catalog parts) (build catalog parts.folded) := by
  have hlist (items : Option (List Expr)) :
      (items.map (List.map Expr.folded)).getD [] = (items.getD []).map Expr.folded := by
    cases items <;> rfl
  have hempty : ({} : Scope).folded = {} := rfl
  have htables := addTables_folded catalog {} (parts.tables.getD [])
  rw [hempty] at htables
  unfold build folded
  simp only [hlist]
  rcases htables.cases with ⟨scope, h, h'⟩ | ⟨e, e', h, h', hplace⟩
  · have hcolumns := addColumns_folded scope (startQuery scope) (parts.columns.getD [])
    rw [← startQuery_folded] at hcolumns
    rcases hcolumns.cases with ⟨q, hq, hq'⟩ | ⟨e, e', he, he', hplace⟩
    · simp only [h, h', hq, hq']
      cases parts.clauses with
      | none => exact .ok _
      | some clauses => exact addClauses_folded scope q clauses
    · simp only [h, h', he, he']
      exact .error hplace
  · simp only [h, h']
    exact .error hplace

/-- **Case.** Parts of a statement that are the same up to the case of ASCII letters in the names of
tables, fields and columns and in aliases make queries that are: with the same tables, columns that
stand for the same, names that are bound to the same and the same sorting. Or both are refused, with
errors of the same kind at the same place. -/
theorem build_ignores_case (catalog : Catalog) {parts parts' : Fragments}
    (h : parts.folded = parts'.folded) :
    Except.Alike Diagnostic.SamePlace (fun q q' => q.folded = q'.folded) (build catalog parts)
      (build catalog parts') :=
  (build_folded catalog parts).alike (h ▸ build_folded catalog parts')

/-- The parts of `SELECT a.id + 1 AS n, owner FROM accounts a ORDER BY n`, with the names as they
are spelled. -/
def spelledParts (a id n owner accounts : String) : Fragments :=
  { columns := some
      [.aliased (.operation (.var ⟨[a, id], none, none⟩) .add (.const (.integer 1))) n,
        .var ⟨[owner], none, none⟩]
    tables := some [.underName (.var ⟨[accounts], none, none⟩) (.var ⟨[a], none, none⟩) false]
    clauses := some { ordering := [{ parts := [n] }] } }

theorem build_ignores_case_ledger :
    (spelledParts "A" "ID" "N" "Owner" "ACCOUNTS").folded =
      (spelledParts "a" "id" "n" "owner" "accounts").folded ∧
    ∃ q q', build ledger (spelledParts "A" "ID" "N" "Owner" "ACCOUNTS") = .ok q ∧
      build ledger (spelledParts "a" "id" "n" "owner" "accounts") = .ok q' ∧
      q.columns.map Column.aliasName = [some "N", none] ∧
      q'.columns.map Column.aliasName = [some "n", none] ∧ q.folded = q'.folded := by
  have hparts : (spelledParts "A" "ID" "N" "Owner" "ACCOUNTS").folded =
      (spelledParts "a" "id" "n" "owner" "accounts").folded := by
    have hnames : ["A", "ID", "N", "Owner", "ACCOUNTS"].map Name.fold =
        ["a", "id", "n", "owner", "accounts"].map Name.fold := by decide
    simp only [List.map_cons, List.map_nil, List.cons.injEq, and_true] at hnames
    obtain ⟨ha, hid, hn, howner, haccounts⟩ := hnames
    simp only [spelledParts, folded, Clauses.folded, SortItem.folded, Expr.folded, Expr.aliased,
      Expr.operation, Expr.mapVariables, Variable.folded, Option.map_some, Option.map_none,
      List.map_cons, List.map_nil, ha, hid, hn, howner, haccounts]
  obtain ⟨q, h, haliases⟩ := Except.exists_of_toOption_map
    (x := build ledger (spelledParts "A" "ID" "N" "Owner" "ACCOUNTS"))
    (f := fun q => q.columns.map Column.aliasName) (b := [some "N", none]) (by decide +kernel)
  have halike := build_ignores_case ledger hparts
  rcases halike.cases with ⟨q₁, q', h₁, h', hfolded⟩ | ⟨e, e', he, -, -⟩
  · obtain rfl := Except.ok.inj (h.symm.trans h₁)
    have haliases' := Except.eq_of_toOption_map h' (f := fun q => q.columns.map Column.aliasName)
      (b := [some "n", none]) (by decide +kernel)
    exact ⟨hparts, q, q', h, h', haliases, haliases', hfolded⟩
  · rw [h] at he
    cases he

end Fragments

end SelectBinding
