import SelectBinding.Diagnostic
import SelectBinding.Query.Render

/-!
What became of a statement, for a reader outside the program: the query it stands for, spelled out
in texts and numbers, or the error.
-/

namespace SelectBinding

/-- The version of the layout of a report. -/
structure ReportVersion where
  major : Nat
  minor : Nat
deriving Repr, DecidableEq

namespace ReportVersion

/-- The version that is written. -/
def current : ReportVersion := ⟨1, 0⟩

/-- The version as it is shown. -/
def text (version : ReportVersion) : String :=
  toString version.major ++ "." ++ toString version.minor

end ReportVersion

/-- A table after `FROM`. -/
structure TableEntry where
  position : Nat
  name : String
  aliasName : Option String
deriving Repr, DecidableEq

/-- A column as the statement lists it. -/
structure ColumnEntry where
  position : Nat
  kind : String
  text : String
  aliasName : Option String
  tablePosition : Option Nat
  visible : Bool
deriving Repr, DecidableEq

/-- A column of the expanded list. -/
structure ExpandedEntry where
  name : String
  table : Option String
  tablePosition : Option Nat
  column : Nat
  visible : Bool
deriving Repr, DecidableEq

/-- A sorting criterion. -/
structure SortEntry where
  target : String
  ascending : Bool
deriving Repr, DecidableEq

/-- A query spelled out. -/
structure QueryDescription where
  sql : String
  tables : List TableEntry
  masterTable : Option String
  columns : List ColumnEntry
  expanded : List ExpandedEntry
  filter : Option String
  ordering : List SortEntry
  /-- For every primary key field of the master table, its index in the expanded list. -/
  primaryKeyOrder : List (Option Nat)
deriving Repr, DecidableEq

namespace Query

/-- The key of the table at `position`, or nothing. -/
def keyAt (q : Query) (position : Nat) : String :=
  match q.sources[position]? with
  | some source => source.key
  | none => ""

/-- What kind of column it is, in a word. -/
def kindWord : ColumnKind → String
  | .field _ => "field"
  | .asterisk _ => "asterisk"
  | .expression _ => "expression"

/-- What a column asks for, in words. -/
def describeKind (q : Query) : ColumnKind → String
  | .field column => column.field
  | .asterisk none => "*"
  | .asterisk (some position) => q.keyAt position ++ ".*"
  | .expression expr => expr.text

/-- The column at `position`, spelled out. -/
def describeColumn (q : Query) (column : Column) (position : Nat) : ColumnEntry :=
  { position
    kind := kindWord column.kind
    text := q.describeKind column.kind
    aliasName := q.columnAlias? position
    tablePosition := column.kind.position?
    visible := column.visible }

/-- A column of the expanded list, spelled out. -/
def describeExpanded (c : ExpandedColumn) : ExpandedEntry :=
  { name := c.name
    table := c.field?.map fun column => column.table.name
    tablePosition := c.position?
    column := c.column
    visible := c.visible }

/-- A sorting criterion, spelled out. -/
def describeSortKey (q : Query) (key : SortKey) : SortEntry :=
  { target :=
      match key.target with
      | .column index =>
        match q.columnAlias? index with
        | some aliasName => aliasName
        | none => "column " ++ toString (index + 1)
      | .number index => "#" ++ toString (index + 1)
      | .field position name => q.keyAt position ++ "." ++ name
    ascending := key.ascending }

/-- The query spelled out. -/
def describe (q : Query) : QueryDescription :=
  { sql := q.text
    tables := q.sources.zipIdx.map fun (source, position) =>
      ⟨position, source.table.name, source.aliasName⟩
    masterTable := q.master?.map Table.name
    columns := q.columns.zipIdx.map fun (column, position) => q.describeColumn column position
    expanded := q.expanded.map describeExpanded
    filter := q.filter.map Expr.text
    ordering := q.ordering.map q.describeSortKey
    primaryKeyOrder := q.primaryKeyOrder }

end Query

/-- What became of a statement. -/
structure Report where
  version : ReportVersion
  statement : String
  query : Option QueryDescription
  error : Option Diagnostic
deriving Repr, DecidableEq

namespace Report

/-- The report of a statement that was read. -/
def ofQuery (statement : String) (q : Query) : Report :=
  ⟨.current, statement, some q.describe, none⟩

/-- The report of a statement that was refused. -/
def ofError (statement : String) (e : Diagnostic) : Report :=
  ⟨.current, statement, none, some e⟩

/-- The report of the outcome of reading a statement. -/
def ofOutcome (statement : String) : Except Diagnostic Query → Report
  | .ok q => ofQuery statement q
  | .error e => ofError statement e

/-- Whether the statement was refused. -/
def hasErrors (report : Report) : Bool :=
  report.error.isSome

end Report

end SelectBinding
