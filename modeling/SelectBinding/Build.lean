import SelectBinding.Catalog
import SelectBinding.Query.Edit
import SelectBinding.Query.Render
import SelectBinding.Scope

/-!
From the parts of a statement to a query.

Tables are looked up first, then the columns are resolved, then the filter and the sorting. The
first error stops the work.
-/

namespace SelectBinding

/-- One sorting criterion as a statement writes it. -/
structure SortItem where
  /-- The parts of a name, or the digits of a number. -/
  parts : List String
  /-- The number of an expanded column, counted from 1. -/
  number : Option Nat := none
  ascending : Bool := true
  /-- Where the criterion starts in the statement. -/
  position : Option Nat := none
deriving Repr, DecidableEq

namespace SortItem

/-- The criterion that is the dotted name `name`. -/
def named (name : String) (ascending : Bool) : SortItem :=
  { parts := Name.dottedParts name, ascending }

/-- The criterion that is a number of a column. -/
def numbered (number : Nat) (ascending : Bool) : SortItem :=
  { parts := [toString number], number := some number, ascending }

/-- The criterion as messages show it. -/
def text (item : SortItem) : String :=
  Name.dotted item.parts

/-- The part before the last one. -/
def qualifier? (item : SortItem) : Option String :=
  match item.parts.reverse with
  | _ :: qualifier :: _ => some qualifier
  | _ => none

/-- The last part. -/
def fieldName (item : SortItem) : String :=
  item.parts.getLast?.getD ""

end SortItem

/-- The filter and the sorting of a statement. -/
structure Clauses where
  filter : Option Expr := none
  /-- The sorting criteria, the first one first. -/
  ordering : List SortItem := []
deriving Repr

/-- The parts of a statement before any name is looked up. -/
structure Fragments where
  columns : Option (List Expr) := none
  tables : Option (List Expr) := none
  clauses : Option Clauses := none
deriving Repr

namespace Fragments

/-- A refused change as an error of the program. -/
def unexpected {α : Type} (result : Except QueryError α) : Except Diagnostic α :=
  result.mapError fun e => { kind := .implementation, message := e.text }

/-! ### Tables -/

/-- The error for an item that may not stand after `FROM`. -/
def invalidTable {α : Type} (item : Expr) : Except Diagnostic α :=
  .error { kind := .implementation,
           message := "Invalid table list item \"" ++ item.text ++ "\"" }

/-- The name of a table after `FROM` and the alias it is given. -/
def tableItem : Expr → Except Diagnostic (Variable × Option String)
  | .var v => .ok (v, none)
  | .underName (.var v) (.var aliasName) _ => .ok (v, some aliasName.name)
  | .underName expr _ _ => invalidTable expr
  | item => invalidTable item

/-- The source that an item after `FROM` stands for, and the key it is registered under. -/
def source (lookup? : Lookup) (item : Expr) : Except Diagnostic (Source × String) :=
  match tableItem item with
  | .error e => .error e
  | .ok (v, aliasName) =>
    match lookup? v.name with
    | some table => .ok (⟨table, aliasName.bind Query.givenAlias⟩, aliasName.getD v.name)
    | none =>
      .error { kind := .reference, message := "Table \"" ++ v.name ++ "\" does not exist",
               token := v.name, position := v.position }

/-- The scope with the tables of a list of items after `FROM`. -/
def addTables (lookup? : Lookup) (scope : Scope) : List Expr → Except Diagnostic Scope
  | [] => .ok scope
  | item :: rest =>
    match source lookup? item with
    | .error e => .error e
    | .ok (source, key) =>
      addTables lookup? ((scope.register key scope.sources.length).addTable source) rest

/-- The query over the tables of a scope; an only table is its master. -/
def startQuery (scope : Scope) : Query :=
  { sources := scope.sources
    declaredMaster :=
      match scope.sources with
      | [only] => some only.table
      | _ => none }

/-! ### Columns -/

/-- What a column asks for and the alias it is given. -/
def columnItem : Expr → Except Diagnostic (Expr × Option String)
  | .underName expr (.var aliasName) _ => .ok (expr, some aliasName.name)
  | .underName expr _ _ =>
    .error { kind := .shape,
             message := "Invalid alias definition for column \"" ++ expr.text ++ "\"" }
  | item => .ok (item, none)

/-- Whether a column may stand for the expression: a list and an alias may not. -/
def mayBeColumn : Expr → Bool
  | .underName .. | .list _ => false
  | _ => true

/-- The query with a column for a name that is bound. -/
def addBound (q : Query) (v : Variable) : Except Diagnostic Query :=
  match v.binding with
  | some .allTables =>
    if q.sources.isEmpty then
      .error { kind := .shape,
               message := "\"*\" could not be used if no tables are specified",
               token := v.name, position := v.position }
    else .ok (q.addAsterisk none true)
  | some (.tableAsterisk position) => .ok (q.addAsterisk (some position) true)
  | some (.field position field) =>
    match q.sources[position]? with
    | some source => unexpected (q.addField source.table field (some position) true)
    | none =>
      .error { kind := .implementation,
               message := "\"" ++ v.name ++ "\" bound to missing FROM position " ++
                 toString position }
  | none => .error { kind := .implementation, message := "Unbound column \"" ++ v.name ++ "\"" }

/-- The query with one more column, without an alias. -/
def addUnnamed (scope : Scope) (q : Query) (expr : Expr) : Except Diagnostic Query :=
  match scope.resolve true expr with
  | .error e => .error e
  | .ok (.var v) => addBound q v
  | .ok expr => .ok (q.addExpression expr true)

/-- The query with one more column. -/
def addColumn (scope : Scope) (q : Query) (item : Expr) : Except Diagnostic Query :=
  match columnItem item with
  | .error e => .error e
  | .ok (expr, aliasName) =>
    if mayBeColumn expr then
      match addUnnamed scope q expr, aliasName with
      | .error e, _ => .error e
      | .ok q', none => .ok q'
      | .ok q', some aliasName => unexpected (q'.setColumnAlias q.columns.length aliasName)
    else
      .error { kind := .shape, message := "Invalid \"" ++ expr.text ++ "\" column definition" }

/-- The query with the columns of a list of items. -/
def addColumns (scope : Scope) (q : Query) : List Expr → Except Diagnostic Query
  | [] => .ok q
  | item :: rest =>
    match addColumn scope q item with
    | .error e => .error e
    | .ok q => addColumns scope q rest

/-! ### Filter and sorting -/

/-- The query with its filter resolved. -/
def addFilter (scope : Scope) (q : Query) : Option Expr → Except Diagnostic Query
  | none => .ok q
  | some expr => (scope.resolve false expr).map fun expr => q.setFilter (some expr)

/-- The query sorted by the expanded column with a number. -/
def sortByNumber (q : Query) (item : SortItem) (number : Nat) : Except Diagnostic Query :=
  let missing : Diagnostic :=
    { kind := .reference
      message := "Could not define sorting - no column at position " ++ toString number
      token := item.text
      position := item.position }
  match number with
  | 0 => .error missing
  | index + 1 => (q.sortByPosition index item.ascending).mapError fun _ => missing

/-- The query sorted by a field of one of its tables. -/
def sortByName (q : Query) (item : SortItem) : Except Diagnostic Query :=
  match q.findField? item.qualifier? item.fieldName with
  | some (position, field) => unexpected (q.sortByField position field.name item.ascending)
  | none =>
    .error { kind := .reference
             message := "Could not define sorting - column name or alias \"" ++ item.text ++
               "\" does not exist"
             token := item.text
             position := item.position }

/-- The query with one more sorting criterion: a column by its alias or name, or else a column by
its number, or else a field of any table. -/
def addSortItem (q : Query) (item : SortItem) : Except Diagnostic Query :=
  match q.columnInfo? item.qualifier? item.fieldName false with
  | some (_, info) => unexpected (q.sortByColumn info.column item.ascending)
  | none =>
    match item.number with
    | some number => sortByNumber q item number
    | none => sortByName q item

/-- The query with a list of sorting criteria. -/
def addOrdering (q : Query) : List SortItem → Except Diagnostic Query
  | [] => .ok q
  | item :: rest =>
    match addSortItem q item with
    | .error e => .error e
    | .ok q => addOrdering q rest

/-- The query with its filter and its sorting. -/
def addClauses (scope : Scope) (q : Query) (clauses : Clauses) : Except Diagnostic Query :=
  match addFilter scope q clauses.filter with
  | .error e => .error e
  | .ok q => addOrdering q clauses.ordering

/-- The query that the parts of a statement stand for. -/
def build (lookup? : Lookup) (parts : Fragments) : Except Diagnostic Query :=
  match addTables lookup? {} (parts.tables.getD []) with
  | .error e => .error e
  | .ok scope =>
    match addColumns scope (startQuery scope) (parts.columns.getD []) with
    | .error e => .error e
    | .ok q =>
      match parts.clauses with
      | none => .ok q
      | some clauses => addClauses scope q clauses

end Fragments

end SelectBinding
