import SelectBinding.Query.Render
import SelectBinding.Text.Unprintable

/-!
A query part by part, one part on a line, for logs.
-/

namespace SelectBinding

/-- A target of the sorting, spelled out. -/
def SortTarget.trace : SortTarget → String
  | .column index => "Column(" ++ toString index ++ ")"
  | .number index => "Position(" ++ toString index ++ ")"
  | .field position name =>
    "Field \x7b table_position: " ++ toString position ++ ", field: " ++ Text.spelledOut name ++
      " \x7d"

/-- A sorting criterion, spelled out. -/
def SortKey.trace (key : SortKey) : String :=
  "OrderByColumn \x7b target: " ++ key.target.trace ++ ", ascending: " ++
    (if key.ascending then "true" else "false") ++ " \x7d"

namespace Query

/-- The lines for a list of items, numbered from `index`. -/
def numberedLines (index : Nat) : List String → String
  | [] => ""
  | item :: rest =>
    "  " ++ toString index ++ ": " ++ item ++ "\n" ++ numberedLines (index + 1) rest

/-- A column and its alias. -/
def traceColumn (q : Query) (column : Column) : String :=
  q.renderKind .builtin column.kind ++
    (match column.aliasName with
      | some aliasName => " AS " ++ aliasName
      | none => "") ++
    if column.visible then "" else " [hidden]"

/-- A table and its alias. -/
def traceSource (source : Source) : String :=
  source.table.name ++
    match source.aliasName with
    | some aliasName => " AS " ++ aliasName
    | none => ""

/-- The query part by part, its columns being spelled out already. -/
def traceWith (q : Query) (columns : List String) : String :=
  "SELECT:\n" ++ numberedLines 0 columns ++
    "FROM:\n" ++ numberedLines 0 (q.sources.map traceSource) ++
    (match q.master? with
      | some master => "MASTER: " ++ master.name ++ "\n"
      | none => "") ++
    (match q.filter with
      | some expr => "WHERE: " ++ expr.text ++ "\n"
      | none => "") ++
    if q.ordering.isEmpty then ""
    else "ORDER BY: [" ++ commaSeparated (q.ordering.map SortKey.trace) ++ "]\n"

/-- The query part by part. -/
def trace (q : Query) : String :=
  q.traceWith (q.columns.map q.traceColumn)

end Query

end SelectBinding
