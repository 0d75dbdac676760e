import SelectBinding.Query.Expansion

/-!
The changes a query takes.

A change is refused when it would leave the query with a reference to a table or a column that is
not there. Removing a table renumbers the tables after it, in every place that refers to them.
-/

namespace SelectBinding

/-- Why a change was refused. -/
inductive QueryError where
  | tableNotInQuery (name : String)
  | tablePositionOutOfRange (position : Nat)
  | columnOutOfRange (index : Nat)
  | tableInUse (position : Nat)
deriving Repr, DecidableEq

namespace QueryError

/-- The refusal in one line. -/
def text : QueryError → String
  | .tableNotInQuery name => "Table \"" ++ name ++ "\" is not used in the query"
  | .tablePositionOutOfRange position => "No table at FROM position " ++ toString position
  | .columnOutOfRange index => "No column at position " ++ toString index
  | .tableInUse position =>
    "Table at FROM position " ++ toString position ++ " is still referenced"

end QueryError

namespace Query

/-- An alias, an empty one being none at all. -/
def givenAlias (aliasName : String) : Option String :=
  if aliasName.isEmpty then none else some aliasName

/-- The query with one more table. -/
def addTable (q : Query) (table : Table) (aliasName : Option String) : Query :=
  { q with sources := q.sources ++ [⟨table, aliasName.bind givenAlias⟩] }

/-- Whether anything in the query refers to the table at `position`. -/
def refersTo (q : Query) (position : Nat) : Bool :=
  (q.columns.any fun column => column.kind.refersTo position) ||
    (q.filter.any fun expr => expr.refersTo position) ||
    (q.ordering.any fun key => key.target.refersTo position)

/-- The position a table has after the one at `removed` is gone. -/
def positionWithout (removed position : Nat) : Nat :=
  if position > removed then position - 1 else position

/-- The query with its tables renumbered in every place that refers to them. -/
def mapPositions (move : Nat → Nat) (q : Query) : Query :=
  { q with
    columns := q.columns.map fun column => { column with kind := column.kind.mapPositions move }
    filter := q.filter.map (Expr.mapPositions move)
    ordering := q.ordering.map fun key => { key with target := key.target.mapPositions move } }

/-- The query without the table at `position`, and that table. A declared master stays only while
its table does. -/
def removeTable (q : Query) (position : Nat) : Except QueryError (Query × Source) :=
  match q.sources[position]? with
  | none => .error (.tablePositionOutOfRange position)
  | some removed =>
    if q.refersTo position then .error (.tableInUse position)
    else
      let sources := q.sources.eraseIdx position
      let stillUsed := sources.any fun source => source.table.same removed.table
      let declaredMaster := q.declaredMaster.filter fun master =>
        stillUsed || !master.same removed.table
      .ok ({ q.mapPositions (positionWithout position) with sources, declaredMaster }, removed)

/-- The query with another alias for the table at `position`; an empty alias takes it away. -/
def setTableAlias (q : Query) (position : Nat) (aliasName : String) : Except QueryError Query :=
  match q.sources[position]? with
  | none => .error (.tablePositionOutOfRange position)
  | some source =>
    let source := { source with aliasName := givenAlias aliasName }
    .ok { q with sources := q.sources.set position source }

/-- The query with a declared master, which has to stand after `FROM`. -/
def setMaster (q : Query) (table : Table) : Except QueryError Query :=
  if q.uses table then .ok { q with declaredMaster := some table }
  else .error (.tableNotInQuery table.name)

/-- The query with one more column. -/
def addColumn (q : Query) (kind : ColumnKind) (visible : Bool) : Query :=
  { q with columns := q.columns ++ [⟨kind, none, visible⟩] }

/-- The query with a column for a field, of the table at a position or of any after `FROM`. -/
def addField (q : Query) (table : Table) (field : String) (position : Option Nat)
    (visible : Bool) : Except QueryError Query :=
  let added := q.addColumn (.field ⟨table, field, position⟩) visible
  match position with
  | some position =>
    match q.sources[position]? with
    | none => .error (.tablePositionOutOfRange position)
    | some source =>
      if source.table.same table then .ok added else .error (.tableNotInQuery table.name)
  | none => if q.uses table then .ok added else .error (.tableNotInQuery table.name)

/-- The query with an asterisk for every table or for the one at the position `scope`. -/
def addAsterisk (q : Query) (scope : Option Nat) (visible : Bool) : Query :=
  q.addColumn (.asterisk scope) visible

/-- The query with an expression column. -/
def addExpression (q : Query) (expr : Expr) (visible : Bool) : Query :=
  q.addColumn (.expression expr) visible

/-- The query with one of its columns changed. -/
def changeColumn (q : Query) (index : Nat) (change : Column → Column) : Except QueryError Query :=
  match q.columns[index]? with
  | none => .error (.columnOutOfRange index)
  | some column => .ok { q with columns := q.columns.set index (change column) }

/-- The query with another alias for a column; an empty alias takes it away. -/
def setColumnAlias (q : Query) (index : Nat) (aliasName : String) : Except QueryError Query :=
  q.changeColumn index fun column => { column with aliasName := givenAlias aliasName }

/-- The query with a column shown or hidden. -/
def setColumnVisible (q : Query) (index : Nat) (visible : Bool) : Except QueryError Query :=
  q.changeColumn index fun column => { column with visible }

/-- The query with another filter, or with none. -/
def setFilter (q : Query) (filter : Option Expr) : Query :=
  { q with filter }

/-- The query sorted by one more criterion. -/
def addSortKey (q : Query) (target : SortTarget) (ascending : Bool) : Query :=
  { q with ordering := q.ordering ++ [⟨target, ascending⟩] }

/-- The query sorted also by the column at `index`. -/
def sortByColumn (q : Query) (index : Nat) (ascending : Bool) : Except QueryError Query :=
  if index < q.columns.length then .ok (q.addSortKey (.column index) ascending)
  else .error (.columnOutOfRange index)

/-- The query sorted also by the expanded column at `index`. -/
def sortByPosition (q : Query) (index : Nat) (ascending : Bool) : Except QueryError Query :=
  if index < q.expanded.length then .ok (q.addSortKey (.number index) ascending)
  else .error (.columnOutOfRange index)

/-- The query sorted also by a field of the table at `position`. -/
def sortByField (q : Query) (position : Nat) (field : String) (ascending : Bool) :
    Except QueryError Query :=
  if position < q.sources.length then .ok (q.addSortKey (.field position field) ascending)
  else .error (.tablePositionOutOfRange position)

/-- The query that remembers the text it was read from. -/
def setStatement (q : Query) (statement : String) : Query :=
  { q with statement := some statement }

/-- The query for every row and field of a table. -/
def ofTable (table : Table) : Query :=
  ({ Query.empty.addTable table none with declaredMaster := some table }).addAsterisk none true

/-- A change of a query. -/
inductive Edit where
  | clear
  | addTable (table : Table) (aliasName : Option String)
  | removeTable (position : Nat)
  | setTableAlias (position : Nat) (aliasName : String)
  | setMaster (table : Table)
  | addField (table : Table) (field : String) (position : Option Nat) (visible : Bool)
  | addAsterisk (scope : Option Nat) (visible : Bool)
  | addExpression (expr : Expr) (visible : Bool)
  | setColumnAlias (index : Nat) (aliasName : String)
  | setColumnVisible (index : Nat) (visible : Bool)
  | setFilter (filter : Option Expr)
  | sortByColumn (index : Nat) (ascending : Bool)
  | sortByPosition (index : Nat) (ascending : Bool)
  | sortByField (position : Nat) (field : String) (ascending : Bool)
  | setStatement (statement : String)

/-- The query after a change, or why the change was refused. -/
def apply (q : Query) : Edit → Except QueryError Query
  | .clear => .ok .empty
  | .addTable table aliasName => .ok (q.addTable table aliasName)
  | .removeTable position => (q.removeTable position).map Prod.fst
  | .setTableAlias position aliasName => q.setTableAlias position aliasName
  | .setMaster table => q.setMaster table
  | .addField table field position visible => q.addField table field position visible
  | .addAsterisk scope visible => .ok (q.addAsterisk scope visible)
  | .addExpression expr visible => .ok (q.addExpression expr visible)
  | .setColumnAlias index aliasName => q.setColumnAlias index aliasName
  | .setColumnVisible index visible => q.setColumnVisible index visible
  | .setFilter filter => .ok (q.setFilter filter)
  | .sortByColumn index ascending => q.sortByColumn index ascending
  | .sortByPosition index ascending => q.sortByPosition index ascending
  | .sortByField position field ascending => q.sortByField position field ascending
  | .setStatement statement => .ok (q.setStatement statement)

/-- The query after a change, or the query as it was when the change was refused. -/
def step (q : Query) (edit : Edit) : Query :=
  match q.apply edit with
  | .ok changed => changed
  | .error _ => q

/-- The query after a run of changes, refused ones leaving it as it was. -/
def run (q : Query) (edits : List Edit) : Query :=
  edits.foldl step q

end Query

end SelectBinding
