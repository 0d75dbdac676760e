import SelectBinding.Diagnostic
import SelectBinding.Expr.Render
import SelectBinding.Query.Basic

/-!
What a name stands for among the tables after `FROM`.

A table may be called by its key: its alias, or else its name. A field without a qualifier belongs
to the first table that has it, unless a different table has it too. A qualified field belongs to
the one table with that key. Resolving an expression binds each of its variables and leaves
everything else as it is; the first variable that stands for nothing stops it.
-/

namespace SelectBinding

/-- The tables after `FROM` and the keys under which they were registered. -/
structure Scope where
  sources : List Source := []
  /-- Folded keys with the positions they stand for, in the order of registration. -/
  keys : List (String × Nat) := []
deriving Repr

namespace Scope

/-- The scope with one more table. -/
def addTable (scope : Scope) (source : Source) : Scope :=
  { scope with sources := scope.sources ++ [source] }

/-- The scope with one more key for the table at `position`. -/
def register (scope : Scope) (key : String) (position : Nat) : Scope :=
  { scope with keys := scope.keys ++ [(Name.fold key, position)] }

/-- Every position registered under `key`. -/
def positionsFor (scope : Scope) (key : String) : List Nat :=
  (scope.keys.filter fun entry => entry.1 == Name.fold key).map Prod.snd

/-- The scope of a list of tables, each registered under its key. -/
def ofSources (sources : List Source) : Scope :=
  ⟨sources, (sources.zipIdx).map fun (source, position) => (Name.fold source.key, position)⟩

/-! ### Names -/

/-- The binding of a field without a qualifier, searched in a list of sources whose positions count
from `position`. The first table found to have the field is kept in `found`. -/
def bindFieldFrom (name : String) (found : Option (Nat × Table × Field)) (position : Nat) :
    List Source → Except Diagnostic Binding
  | [] =>
    match found with
    | some (first, _, field) => .ok (.field first field.name)
    | none =>
      .error { kind := .reference, message := "Field not found",
               details := some ("Table containing \"" ++ name ++ "\" field not found") }
  | source :: rest =>
    match source.table.field? name, found with
    | none, _ => bindFieldFrom name found (position + 1) rest
    | some field, none =>
      bindFieldFrom name (some (position, source.table, field)) (position + 1) rest
    | some _, some (_, table, _) =>
      if table.same source.table then bindFieldFrom name found (position + 1) rest
      else
        .error { kind := .ambiguity, message := "Ambiguous field name",
                 details := some ("Both table \"" ++ table.name ++ "\" and \"" ++
                   source.table.name ++ "\" have defined \"" ++ name ++ "\" field. Use \"" ++
                   "<tableName>." ++ name ++ "\" notation to specify table name.") }

/-- The binding of a field without a qualifier. -/
def bindField (scope : Scope) (name : String) : Except Diagnostic Binding :=
  bindFieldFrom name none 0 scope.sources

/-- The alias that a name of a table is hidden by at one source. -/
def hidingAlias? (table : String) (source : Source) : Option String :=
  source.aliasName.filter fun aliasName => !Name.agree aliasName table

/-- The alias to use in place of a table's name, when every use of the table goes by another name:
the last of them. -/
def coveringAlias? (scope : Scope) (table : String) : Option String :=
  let uses := scope.sources.filter fun source => source.table.hasName table
  if uses.all fun source => (hidingAlias? table source).isSome then
    uses.getLast?.bind (hidingAlias? table)
  else none

/-- The binding of a field of the one table at `position`. -/
def bindFieldAt (scope : Scope) (table name : String) (position : Nat) :
    Except Diagnostic Binding :=
  match scope.sources[position]?.bind fun source => source.table.field? name with
  | some field => .ok (.field position field.name)
  | none =>
    .error { kind := .reference, message := "Field not found",
             details := some ("Table \"" ++ table ++ "\" has no \"" ++ name ++ "\" field") }

/-- The error for a key that more than one table goes by. -/
def repeatedKey (scope : Scope) (table name : String) (positions : List Nat) : Diagnostic :=
  let several := "More than one \"" ++ table ++ "\" table or alias defined"
  let containing := positions.countP fun position =>
    scope.sources[position]?.any fun source => (source.table.field? name).isSome
  { kind := .ambiguity
    message := "Ambiguous \"" ++ table ++ "." ++ name ++ "\" expression"
    details := some (
      if name ≠ "*" ∧ containing > 1 then several ++ " containing \"" ++ name ++ "\" field"
      else several) }

/-- The binding of `table.name` among the tables that go by the key `table`. -/
def bindByKey (scope : Scope) (table name : String) : Except Diagnostic Binding :=
  match scope.positionsFor table with
  | [] =>
    if scope.sources.any fun source => source.table.hasName table then
      .error { kind := .implementation,
               message := table ++ "." ++ name ++ ": no FROM positions recorded" }
    else .error { kind := .reference, message := "Table \"" ++ table ++ "\" does not exist" }
  | [position] =>
    if name = "*" then .ok (.tableAsterisk position) else scope.bindFieldAt table name position
  | positions => .error (scope.repeatedKey table name positions)

/-- The binding of `table.name`, where `name` may be an asterisk. -/
def bindQualified (scope : Scope) (table name : String) : Except Diagnostic Binding :=
  match scope.coveringAlias? table with
  | some aliasName =>
    .error { kind := .reference,
             message := "Could not access the table directly using its name",
             details := some ("Table \"" ++ table ++ "\" is covered by aliases. Instead of \"" ++
               table ++ "." ++ name ++ "\", you can write \"" ++ aliasName ++ "." ++ name ++ "\"") }
  | none => scope.bindByKey table name

/-- The binding of a name by its parts. -/
def bindParts (scope : Scope) : List String → Except Diagnostic Binding
  | ["*"] => .ok .allTables
  | [name] => scope.bindField name
  | [table, name] => scope.bindQualified table name
  | parts =>
    .error { kind := .reference, message := "Field not found",
             details := some ("Invalid field reference \"" ++ Name.dotted parts ++ "\"") }

/-- What a variable stands for; an error is placed at the variable. -/
def bind (scope : Scope) (v : Variable) : Except Diagnostic Binding :=
  (scope.bindParts v.parts).mapError fun e => e.located v.name v.position

/-! ### Expressions -/

/-- The variable with its binding. An asterisk has to be allowed where it stands. -/
def resolveVariable (scope : Scope) (asterisk : Bool) (v : Variable) :
    Except Diagnostic Variable :=
  if v.isAsterisk && !asterisk then
    .error { kind := .grammar, message := "Syntax Error near \"" ++ v.name ++ "\"",
             token := v.name, position := v.position }
  else (scope.bind v).map fun binding => { v with binding := some binding }

mutual

/-- The expression with every variable bound. An asterisk may stand for the whole expression when
`asterisk` holds, and as a direct argument of an aggregate; a name given with `AS` may stand
nowhere. -/
def resolve (scope : Scope) (asterisk : Bool) : Expr → Except Diagnostic Expr
  | .const value => .ok (.const value)
  | .var v => (scope.resolveVariable asterisk v).map .var
  | .unary op arg => (scope.resolve false arg).map (.unary op)
  | .binary family op left right =>
    match scope.resolve false left with
    | .error e => .error e
    | .ok left => (scope.resolve false right).map (.binary family op left)
  | .call .function name args => (scope.resolveAll false args).map (.call .function name)
  | .call .aggregate name args => (scope.resolveAll true args).map (.call .aggregate name)
  | .underName _ name _ =>
    .error { kind := .grammar, message := "Syntax Error near \"" ++ name.text ++ "\"" }
  | .list args => (scope.resolveAll false args).map .list

/-- A list of expressions with every variable bound. -/
def resolveAll (scope : Scope) (asterisk : Bool) : List Expr → Except Diagnostic (List Expr)
  | [] => .ok []
  | arg :: rest =>
    match scope.resolve asterisk arg with
    | .error e => .error e
    | .ok arg => (scope.resolveAll asterisk rest).map (arg :: ·)

end

end Scope

end SelectBinding
