import SelectBinding.Query.Basic

/-!
The columns of a query with every asterisk written out, and what is looked up in them.

An asterisk stands for the fields of one table or of all tables, in the order in which the tables
declare them. Sorting criteria, primary keys and generated values are found in the expanded list.
-/

namespace SelectBinding

/-- Where an expanded column comes from. -/
inductive ExpandedSource where
  | field (column : FieldColumn)
  /-- The expression of the column at an index. -/
  | expression (index : Nat)
deriving Repr, DecidableEq

/-- A column of the expanded list. -/
structure ExpandedColumn where
  source : ExpandedSource
  /-- The alias of the column, or the generated one of an expression. -/
  aliasName : Option String
  visible : Bool
  /-- The index of the column it comes from. -/
  column : Nat
  fromAsterisk : Bool
deriving Repr, DecidableEq

namespace ExpandedColumn

/-- The field the column stands for. -/
def field? (c : ExpandedColumn) : Option FieldColumn :=
  match c.source with
  | .field column => some column
  | .expression _ => none

/-- The name of the column: its alias, or else the name of its field. -/
def name (c : ExpandedColumn) : String :=
  match c.aliasName, c.source with
  | some aliasName, _ => aliasName
  | none, .field column => column.field
  | none, .expression _ => ""

/-- The position of the table the column belongs to. -/
def position? (c : ExpandedColumn) : Option Nat :=
  c.field?.bind FieldColumn.position

/-- Whether the column is a field of `table` called `name`. -/
def isFieldOf (c : ExpandedColumn) (table : Table) (name : String) : Bool :=
  c.field?.any fun column => column.table.same table && Name.agree column.field name

end ExpandedColumn

namespace Query

/-- The fields of the table at `position`, as they stand for the asterisk at `index`. -/
def fieldsAt (q : Query) (index : Nat) (visible : Bool) (position : Nat) : List ExpandedColumn :=
  match q.sources[position]? with
  | none => []
  | some source =>
    source.table.fields.map fun field =>
      { source := .field ⟨source.table, field.name, some position⟩
        aliasName := none
        visible
        column := index
        fromAsterisk := true }

/-- What the column at `index` expands to. -/
def expandColumn (q : Query) (index : Nat) (column : Column) : List ExpandedColumn :=
  match column.kind with
  | .field field => [⟨.field field, column.aliasName, column.visible, index, false⟩]
  | .asterisk (some position) => q.fieldsAt index column.visible position
  | .asterisk none => (List.range q.sources.length).flatMap (q.fieldsAt index column.visible)
  | .expression _ => [⟨.expression index, q.columnAlias? index, column.visible, index, false⟩]

/-- What a list of columns expands to, the first of them being the one at `index`. -/
def expandFrom (q : Query) (index : Nat) : List Column → List ExpandedColumn
  | [] => []
  | column :: rest => q.expandColumn index column ++ q.expandFrom (index + 1) rest

/-- The columns of the query with every asterisk written out. -/
def expanded (q : Query) : List ExpandedColumn :=
  q.expandFrom 0 q.columns

/-- Whether an expanded column answers to a name, after a qualifier or without one. A column with an
alias answers to its alias only. -/
def answers (q : Query) (qualifier : Option String) (name : String) (c : ExpandedColumn) : Bool :=
  match c.aliasName, c.source with
  | some aliasName, _ => qualifier.isNone && Name.agree aliasName name
  | none, .expression _ => false
  | none, .field column =>
    Name.agree column.field name &&
      match qualifier with
      | none => true
      | some qualifier =>
        column.table.hasName qualifier ||
          (column.position.bind q.tableAlias?).any fun aliasName => Name.agree aliasName qualifier

/-- The first column of a list that satisfies `p`, with its index counted from `index`. -/
def firstFrom (index : Nat) (p : ExpandedColumn → Bool) :
    List ExpandedColumn → Option (Nat × ExpandedColumn)
  | [] => none
  | c :: rest => if p c then some (index, c) else firstFrom (index + 1) p rest

/-- The first expanded column that answers to a name, with its index; columns that come from an
asterisk are passed over unless `asterisks` holds. -/
def columnInfo? (q : Query) (qualifier : Option String) (name : String) (asterisks : Bool) :
    Option (Nat × ExpandedColumn) :=
  firstFrom 0 (fun c => (asterisks || !c.fromAsterisk) && q.answers qualifier name c) q.expanded

/-- The first field called `name` in a list of sources whose positions count from `position`. -/
def findFieldFrom (position : Nat) (qualifier : Option String) (name : String) :
    List Source → Option (Nat × Field)
  | [] => none
  | source :: rest =>
    let field := if qualifier.all source.answersTo then source.table.field? name else none
    match field with
    | some field => some (position, field)
    | none => findFieldFrom (position + 1) qualifier name rest

/-- The first field called `name` among the tables after `FROM`, or among those that answer to the
qualifier, with the position of its table. -/
def findField? (q : Query) (qualifier : Option String) (name : String) : Option (Nat × Field) :=
  findFieldFrom 0 qualifier name q.sources

/-- For every primary key field of the master table, the index of the first expanded column that
stands for it. -/
def primaryKeyOrder (q : Query) : List (Option Nat) :=
  match q.master? with
  | none => []
  | some master =>
    master.primaryKey.map fun key => q.expanded.findIdx? fun c => c.isFieldOf master key.name

/-- How many primary key fields of the master table the query asks for. -/
def primaryKeyCount (q : Query) : Nat :=
  q.primaryKeyOrder.countP Option.isSome

/-- The expanded columns whose values the engine generates. -/
def autoIncrementColumns (q : Query) : List ExpandedColumn :=
  match q.master? with
  | none => []
  | some master =>
    q.expanded.filter fun c => c.field?.any fun column =>
      column.table.same master && (column.table.field? column.field).any Field.autoIncrement

end Query

end SelectBinding
