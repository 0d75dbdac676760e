import SelectBinding.Catalog
import SelectBinding.Report.Basic

/-!
Queries and catalogs as lines of text for a reader at a terminal.
-/

namespace SelectBinding

/-- An alias after what it stands for. -/
def aliasNote : Option String → String
  | some aliasName => " AS " ++ aliasName
  | none => ""

namespace QueryDescription

/-- The line of a table. -/
def tableLine (entry : TableEntry) : String :=
  "  " ++ toString entry.position ++ ": " ++ entry.name ++ aliasNote entry.aliasName

/-- The line of a column. -/
def columnLine (entry : ColumnEntry) : String :=
  "  " ++ toString entry.position ++ ": [" ++ entry.kind ++ "] " ++ entry.text ++
    aliasNote entry.aliasName ++ if entry.visible then "" else " (hidden)"

/-- The line of a column of the expanded list, which is counted from one. -/
def expandedLine (index : Nat) (entry : ExpandedEntry) : String :=
  "  " ++ toString (index + 1) ++ ": " ++ entry.name ++ " (" ++
    entry.table.getD "expression" ++ ")"

/-- The line of a sorting criterion. -/
def sortLine (entry : SortEntry) : String :=
  "  " ++ entry.target ++ if entry.ascending then " ASC" else " DESC"

/-- The query in lines. -/
def lines (d : QueryDescription) : List String :=
  ["Tables:"] ++ d.tables.map tableLine ++
    ["Master table: " ++ d.masterTable.getD "-"] ++
    ["Columns:"] ++ d.columns.map columnLine ++
    ["Expanded:"] ++ d.expanded.mapIdx expandedLine ++
    (match d.filter with
      | some filter => ["Where: " ++ filter]
      | none => []) ++
    if d.ordering.isEmpty then [] else "Order by:" :: d.ordering.map sortLine

end QueryDescription

namespace Field

/-- What is special about a field. -/
def marks (field : Field) : List String :=
  (if field.primaryKey then ["primary key"] else []) ++
    (if field.autoIncrement then ["auto increment"] else []) ++
    if field.notNull then ["not null"] else []

/-- The line of a field. -/
def line (field : Field) : String :=
  "  " ++ field.name ++ " " ++ field.type.label ++
    if field.marks.isEmpty then "" else " (" ++ String.intercalate ", " field.marks ++ ")"

end Field

/-- A table in lines. -/
def Table.lines (table : Table) : List String :=
  table.name :: table.fields.map Field.line

/-- The tables of a catalog in lines. -/
def Catalog.lines (catalog : Catalog) : List String :=
  catalog.sorted.flatMap Table.lines

end SelectBinding
