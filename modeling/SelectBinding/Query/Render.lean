import SelectBinding.Expr.Render
import SelectBinding.Query.Expansion

/-!
The text of a query.

A field is written after the key of its table when that key names one table only; otherwise it is
written alone and means the first table that has it. Reading the text against the same catalog
gives the same tables and columns.
-/

namespace SelectBinding.Query

/-- A field of the table at `position` as a statement refers to it. -/
def renderField (q : Query) (reserved : Reserved) (position : Nat) (field : String) : String :=
  match q.sources[position]? with
  | none => reserved.quote field
  | some source =>
    if q.sources.countP (fun other => Name.agree other.key source.key) = 1 then
      reserved.quote source.key ++ "." ++ reserved.quote field
    else reserved.quote field

/-- What a column stands for as a statement spells it, without an alias. -/
def renderKind (q : Query) (reserved : Reserved) : ColumnKind → String
  | .field ⟨_, field, some position⟩ => q.renderField reserved position field
  | .field ⟨_, field, none⟩ => reserved.quote field
  | .asterisk none => "*"
  | .asterisk (some position) =>
    match q.sources[position]? with
    | some source => reserved.quote source.key ++ ".*"
    | none => "*"
  | .expression expr => expr.render reserved

/-- A column as a statement spells it. -/
def renderColumn (q : Query) (reserved : Reserved) (column : Column) : String :=
  q.renderKind reserved column.kind ++
    match column.aliasName with
    | some aliasName => " AS " ++ reserved.quote aliasName
    | none => ""

/-- A table after `FROM` as a statement spells it. -/
def renderSource (reserved : Reserved) (source : Source) : String :=
  reserved.quote source.table.name ++
    match source.aliasName with
    | some aliasName => " " ++ reserved.quote aliasName
    | none => ""

/-- A sorting criterion as a statement spells it. -/
def renderSortKey (q : Query) (reserved : Reserved) (key : SortKey) : String :=
  let target :=
    match key.target with
    | .column index =>
      match q.columns[index]? with
      | some { aliasName := some aliasName, .. } => reserved.quote aliasName
      | some { kind, .. } => q.renderKind reserved kind
      | none => ""
    | .number index => toString (index + 1)
    | .field position field => q.renderField reserved position field
  if key.ascending then target else target ++ " DESC"

/-- Texts separated by commas. -/
def commaSeparated (texts : List String) : String :=
  String.intercalate ", " texts

/-- The text of a statement by the texts of its columns, its tables, its filter and its sorting
criteria. -/
def statementOf (columns sources : List String) (filter : Option String) (ordering : List String) :
    String :=
  "SELECT " ++ commaSeparated columns ++
    (if sources.isEmpty then "" else " FROM " ++ commaSeparated sources) ++
    (match filter with
      | some filter => " WHERE " ++ filter
      | none => "") ++
    (if ordering.isEmpty then "" else " ORDER BY " ++ commaSeparated ordering)

/-- The text of a query. -/
def render (q : Query) (reserved : Reserved) : String :=
  statementOf (q.columns.map (q.renderColumn reserved)) (q.sources.map (renderSource reserved))
    (q.filter.map fun expr => expr.render reserved) (q.ordering.map (q.renderSortKey reserved))

/-- The text of a query under the words that are always reserved. -/
def text (q : Query) : String :=
  q.render .builtin

end SelectBinding.Query
