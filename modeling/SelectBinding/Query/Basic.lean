import SelectBinding.Expr
import SelectBinding.Schema

/-!
A select statement in its normal form: the tables after `FROM`, the columns it asks for, the filter
and the sorting.

A table is referred to by its place after `FROM`, its position, so the same table may be used more
than once. A column stands for one field, for the fields of an asterisk or for an expression.
-/

namespace SelectBinding

/-- A table after `FROM`, perhaps under an alias. -/
structure Source where
  table : Table
  aliasName : Option String := none
deriving Repr, DecidableEq

namespace Source

/-- The name by which a statement may refer to the table: the alias, or else the table's name. -/
def key (source : Source) : String :=
  source.aliasName.getD source.table.name

/-- Whether the alias of the table is `name`. -/
def hasAlias (source : Source) (name : String) : Bool :=
  source.aliasName.any fun aliasName => Name.agree aliasName name

/-- Whether `name` is the table's name or its alias. -/
def answersTo (source : Source) (name : String) : Bool :=
  source.table.hasName name || source.hasAlias name

end Source

/-- A field asked for by a column, of the table at a position or of a table at no certain one. -/
structure FieldColumn where
  table : Table
  field : String
  position : Option Nat
deriving Repr, DecidableEq

/-- What a column stands for. -/
inductive ColumnKind where
  | field (column : FieldColumn)
  /-- The fields of every table, or of the table at the position `scope`. -/
  | asterisk (scope : Option Nat)
  | expression (expr : Expr)
deriving Repr

namespace ColumnKind

/-- Whether the column stands for an expression. -/
def isExpression : ColumnKind → Bool
  | .expression _ => true
  | _ => false

/-- Whether the column is an asterisk. -/
def isAsterisk : ColumnKind → Bool
  | .asterisk _ => true
  | _ => false

/-- The position of the one table the column belongs to. -/
def position? : ColumnKind → Option Nat
  | .field column => column.position
  | .asterisk scope => scope
  | .expression _ => none

/-- Whether the column refers to the table at `position`. -/
def refersTo (kind : ColumnKind) (position : Nat) : Bool :=
  match kind with
  | .field column => column.position == some position
  | .asterisk scope => scope == some position
  | .expression expr => expr.refersTo position

/-- The column after `move` has renumbered the tables. -/
def mapPositions (move : Nat → Nat) : ColumnKind → ColumnKind
  | .field column => .field { column with position := column.position.map move }
  | .asterisk scope => .asterisk (scope.map move)
  | .expression expr => .expression (expr.mapPositions move)

/-- Equality of what two columns stand for. -/
def same : ColumnKind → ColumnKind → Bool
  | .field a, .field b => a == b
  | .asterisk a, .asterisk b => a == b
  | .expression a, .expression b => a.same b
  | _, _ => false

end ColumnKind

/-- A column of a query. -/
structure Column where
  kind : ColumnKind
  aliasName : Option String := none
  visible : Bool := true
deriving Repr

namespace Column

/-- Whether the alias of the column is `name`. -/
def hasAlias (column : Column) (name : String) : Bool :=
  column.aliasName.any fun aliasName => Name.agree aliasName name

/-- Equality of columns. -/
def same (a b : Column) : Bool :=
  a.kind.same b.kind && a.aliasName == b.aliasName && a.visible == b.visible

end Column

/-- What a query is sorted by. -/
inductive SortTarget where
  /-- The column at an index, by its alias or its name. -/
  | column (index : Nat)
  /-- The expanded column at an index, by its number. -/
  | number (index : Nat)
  /-- A field of the table at a position. -/
  | field (position : Nat) (field : String)
deriving Repr, DecidableEq

namespace SortTarget

/-- Whether the target is a field of the table at `position`. -/
def refersTo (target : SortTarget) (position : Nat) : Bool :=
  match target with
  | .field other _ => other == position
  | _ => false

/-- The target after `move` has renumbered the tables. -/
def mapPositions (move : Nat → Nat) : SortTarget → SortTarget
  | .field position name => .field (move position) name
  | target => target

end SortTarget

/-- One criterion of the sorting. -/
structure SortKey where
  target : SortTarget
  ascending : Bool
deriving Repr, DecidableEq

/-- A select statement in its normal form. -/
structure Query where
  sources : List Source := []
  columns : List Column := []
  /-- The table whose rows the query edits, where one was named. -/
  declaredMaster : Option Table := none
  filter : Option Expr := none
  ordering : List SortKey := []
  /-- The text the query was read from, where it was kept. -/
  statement : Option String := none
deriving Repr, Inhabited

namespace Query

/-- The query with nothing in it. -/
def empty : Query := {}

/-- Equality of lists under an equality of their members. -/
def sameLists {α : Type} (same : α → α → Bool) : List α → List α → Bool
  | [], [] => true
  | a :: as, b :: bs => same a b && sameLists same as bs
  | _, _ => false

/-- Equality of optional values under an equality of the values. -/
def sameOptions {α : Type} (same : α → α → Bool) : Option α → Option α → Bool
  | none, none => true
  | some a, some b => same a b
  | _, _ => false

/-- Equality of queries, member by member. -/
def same (a b : Query) : Bool :=
  a.sources == b.sources && sameLists Column.same a.columns b.columns &&
    a.declaredMaster == b.declaredMaster && sameOptions Expr.same a.filter b.filter &&
    a.ordering == b.ordering && a.statement == b.statement

/-! ### Tables -/

/-- The first table called `name`. -/
def table? (q : Query) (name : String) : Option Table :=
  (q.sources.find? fun source => source.table.hasName name).map Source.table

/-- Whether `table` stands somewhere after `FROM`. -/
def uses (q : Query) (table : Table) : Bool :=
  q.sources.any fun source => source.table.same table

/-- The alias of the table at `position`. -/
def tableAlias? (q : Query) (position : Nat) : Option String :=
  q.sources[position]?.bind Source.aliasName

/-- The first position of the table called `name`. -/
def tablePosition? (q : Query) (name : String) : Option Nat :=
  q.sources.findIdx? fun source => source.table.hasName name

/-- The positions of a list of sources, counted from `first`, that satisfy `p`. -/
def positionsFrom (first : Nat) (p : Source → Bool) : List Source → List Nat
  | [] => []
  | source :: rest =>
    if p source then first :: positionsFrom (first + 1) p rest else positionsFrom (first + 1) p rest

/-- Every position of the table called `name`. -/
def tablePositions (q : Query) (name : String) : List Nat :=
  positionsFrom 0 (fun source => source.table.hasName name) q.sources

/-- The first position that carries the alias `name`. -/
def tablePositionOfAlias? (q : Query) (name : String) : Option Nat :=
  q.sources.findIdx? fun source => source.hasAlias name

/-- The table whose rows the query edits: the one that was declared, or else the only table of the
query, however often it is used. -/
def master? (q : Query) : Option Table :=
  match q.declaredMaster, q.sources with
  | some table, _ => some table
  | none, [] => none
  | none, first :: _ =>
    if q.sources.all fun source => source.table.same first.table then some first.table else none

/-! ### Columns -/

/-- The name a column goes by: its alias, or a generated one for an expression, numbered among the
expressions from 1. -/
def columnAlias? (q : Query) (index : Nat) : Option String :=
  match q.columns[index]? with
  | none => none
  | some { aliasName := some aliasName, .. } => some aliasName
  | some { kind := .expression _, .. } =>
    some ("expr" ++
      toString ((q.columns.take (index + 1)).countP fun column => column.kind.isExpression))
  | some _ => none

/-- Whether the column at `index` has an alias of its own. -/
def hasColumnAlias (q : Query) (index : Nat) : Bool :=
  q.columns[index]?.any fun column => column.aliasName.isSome

/-- The first column with the alias `name`. -/
def columnWithAlias? (q : Query) (name : String) : Option Nat :=
  q.columns.findIdx? fun column => column.hasAlias name

/-- Whether there is a visible column at `index`. -/
def isColumnVisible (q : Query) (index : Nat) : Bool :=
  q.columns[index]?.any Column.visible

/-- The position of the one table the column at `index` belongs to. -/
def columnPosition? (q : Query) (index : Nat) : Option Nat :=
  q.columns[index]?.bind fun column => column.kind.position?

end Query

end SelectBinding
