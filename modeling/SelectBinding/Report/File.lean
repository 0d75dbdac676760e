import SelectBinding.Data.Diagnostic
import SelectBinding.Json.Read
import SelectBinding.Json.Write
import SelectBinding.Report.Basic

/-!
Reports as files hold them.

What has no value is left out of the file, and reading the file gives the same report.
-/

namespace SelectBinding

/-- A position in a statement or a list, which fits a word of 64 bits. -/
def Data.position? : Data → Option Nat :=
  natBelow? UInt64.size

namespace ReportVersion

/-- A version as files hold it. -/
def toData (version : ReportVersion) : Data :=
  .record [("major", .nat version.major), ("minor", .nat version.minor)]

/-- The version that a value stands for. -/
def ofData? (value : Data) : Option ReportVersion :=
  match value.members? .json ["major", "minor"] 2 with
  | some [major, minor] => do
    let major ← Data.required? (Data.natBelow? UInt32.size) major
    let minor ← Data.required? (Data.natBelow? UInt32.size) minor
    return { major, minor }
  | _ => none

end ReportVersion

namespace TableEntry

/-- A table as files hold it. -/
def toData (entry : TableEntry) : Data :=
  .record ([("position", .nat entry.position), ("name", .text entry.name)] ++
    Data.optionalMember "alias" .text entry.aliasName)

/-- The table that a value stands for. -/
def ofData? (value : Data) : Option TableEntry :=
  match value.members? .json ["position", "name", "alias"] 3 with
  | some [position, name, aliasName] => do
    let position ← Data.required? Data.position? position
    let name ← Data.required? Data.text? name
    let aliasName ← Data.optional? Data.text? aliasName
    return { position, name, aliasName }
  | _ => none

end TableEntry

namespace ColumnEntry

/-- A column as files hold it. -/
def toData (entry : ColumnEntry) : Data :=
  .record ([("position", .nat entry.position), ("kind", .text entry.kind),
      ("text", .text entry.text)] ++
    Data.optionalMember "alias" .text entry.aliasName ++
    Data.optionalMember "table_position" Data.nat entry.tablePosition ++
    [("visible", .bool entry.visible)])

/-- The column that a value stands for. -/
def ofData? (value : Data) : Option ColumnEntry :=
  match value.members? .json
      ["position", "kind", "text", "alias", "table_position", "visible"] 6 with
  | some [position, kind, text, aliasName, tablePosition, visible] => do
    let position ← Data.required? Data.position? position
    let kind ← Data.required? Data.text? kind
    let text ← Data.required? Data.text? text
    let aliasName ← Data.optional? Data.text? aliasName
    let tablePosition ← Data.optional? Data.position? tablePosition
    let visible ← Data.required? Data.bool? visible
    return { position, kind, text, aliasName, tablePosition, visible }
  | _ => none

end ColumnEntry

namespace ExpandedEntry

/-- A column of the expanded list as files hold it. -/
def toData (entry : ExpandedEntry) : Data :=
  .record ([("name", .text entry.name)] ++
    Data.optionalMember "table" .text entry.table ++
    Data.optionalMember "table_position" Data.nat entry.tablePosition ++
    [("column", .nat entry.column), ("visible", .bool entry.visible)])

/-- The column of the expanded list that a value stands for. -/
def ofData? (value : Data) : Option ExpandedEntry :=
  match value.members? .json ["name", "table", "table_position", "column", "visible"] 5 with
  | some [name, table, tablePosition, column, visible] => do
    let name ← Data.required? Data.text? name
    let table ← Data.optional? Data.text? table
    let tablePosition ← Data.optional? Data.position? tablePosition
    let column ← Data.required? Data.position? column
    let visible ← Data.required? Data.bool? visible
    return { name, table, tablePosition, column, visible }
  | _ => none

end ExpandedEntry

namespace SortEntry

/-- A sorting criterion as files hold it. -/
def toData (entry : SortEntry) : Data :=
  .record [("target", .text entry.target), ("ascending", .bool entry.ascending)]

/-- The sorting criterion that a value stands for. -/
def ofData? (value : Data) : Option SortEntry :=
  match value.members? .json ["target", "ascending"] 2 with
  | some [target, ascending] => do
    let target ← Data.required? Data.text? target
    let ascending ← Data.required? Data.bool? ascending
    return { target, ascending }
  | _ => none

end SortEntry

namespace QueryDescription

/-- A description as files hold it. -/
def toData (d : QueryDescription) : Data :=
  .record ([("sql", .text d.sql), ("tables", .list (d.tables.map TableEntry.toData))] ++
    Data.optionalMember "master_table" .text d.masterTable ++
    [("columns", .list (d.columns.map ColumnEntry.toData)),
     ("expanded", .list (d.expanded.map ExpandedEntry.toData))] ++
    Data.optionalMember "where" .text d.filter ++
    [("order_by", .list (d.ordering.map SortEntry.toData)),
     ("pkey_fields_order", .list (d.primaryKeyOrder.map (Data.option Data.nat)))])

/-- The description that a value stands for. -/
def ofData? (value : Data) : Option QueryDescription :=
  match value.members? .json ["sql", "tables", "master_table", "columns", "expanded", "where",
      "order_by", "pkey_fields_order"] 8 with
  | some [sql, tables, masterTable, columns, expanded, filter, ordering, primaryKeyOrder] => do
    let sql ← Data.required? Data.text? sql
    let tables ← Data.required? (Data.listOf? TableEntry.ofData?) tables
    let masterTable ← Data.optional? Data.text? masterTable
    let columns ← Data.required? (Data.listOf? ColumnEntry.ofData?) columns
    let expanded ← Data.required? (Data.listOf? ExpandedEntry.ofData?) expanded
    let filter ← Data.optional? Data.text? filter
    let ordering ← Data.required? (Data.listOf? SortEntry.ofData?) ordering
    let primaryKeyOrder ←
      Data.required? (Data.listOf? (Data.orNull? Data.position?)) primaryKeyOrder
    return { sql, tables, masterTable, columns, expanded, filter, ordering, primaryKeyOrder }
  | _ => none

end QueryDescription

namespace Report

/-- A report as files hold it. -/
def toData (report : Report) : Data :=
  .record ([("version", report.version.toData), ("statement", .text report.statement)] ++
    Data.optionalMember "query" QueryDescription.toData report.query ++
    Data.optionalMember "error" Diagnostic.toData report.error)

/-- The report that a value stands for. -/
def ofData? (value : Data) : Option Report :=
  match value.members? .json ["version", "statement", "query", "error"] 4 with
  | some [version, statement, query, error] => do
    let version ← Data.required? ReportVersion.ofData? version
    let statement ← Data.required? Data.text? statement
    let query ← Data.optional? QueryDescription.ofData? query
    let error ← Data.optional? Diagnostic.ofData? error
    return { version, statement, query, error }
  | _ => none

/-- The text of the file that holds a report. -/
def write (report : Report) : String :=
  Json.pretty report.toData

/-- The report that the text of a file holds. -/
def read? (text : String) : Option Report :=
  (Json.read? text).bind ofData?

end Report

end SelectBinding
