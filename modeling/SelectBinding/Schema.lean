import SelectBinding.Name

/-!
Tables and their fields, with the types a field may have.

The tables a statement may use come from a catalog. A query refers to them and never changes them;
two tables are the same table when their names agree.
-/

namespace SelectBinding

/-- The type of a field, whatever the engine calls it. -/
inductive LogicalType where
  | bool
  | int
  | float
  | decimal (precision scale : Option Nat)
  | string
  | date
  | timestamp
  | blob
  | unknown
deriving Repr, DecidableEq

namespace LogicalType

/-- The type as it is shown to a user. -/
def label : LogicalType → String
  | .bool => "BOOL"
  | .int => "INT"
  | .float => "FLOAT"
  | .decimal (some precision) (some scale) =>
    "DECIMAL(" ++ toString precision ++ ", " ++ toString scale ++ ")"
  | .decimal (some precision) none => "DECIMAL(" ++ toString precision ++ ")"
  | .decimal none _ => "DECIMAL"
  | .string => "STRING"
  | .date => "DATE"
  | .timestamp => "TIMESTAMP"
  | .blob => "BLOB"
  | .unknown => "UNKNOWN"

end LogicalType

/-- A field of a table. -/
structure Field where
  name : String
  type : LogicalType := .unknown
  primaryKey : Bool := false
  autoIncrement : Bool := false
  notNull : Bool := false
deriving Repr, DecidableEq

/-- A table, its fields in the order in which they are declared. -/
structure Table where
  name : String
  caption : Option String := none
  fields : List Field := []
deriving Repr, DecidableEq

namespace Table

/-- Whether the table goes by `name`. -/
def hasName (table : Table) (name : String) : Bool :=
  Name.agree table.name name

/-- Whether two descriptions are of the same table. -/
def same (a b : Table) : Bool :=
  a.hasName b.name

/-- The first field called `name`. -/
def field? (table : Table) (name : String) : Option Field :=
  table.fields.find? fun field => Name.agree field.name name

/-- The index of the first field called `name`. -/
def fieldIndex? (table : Table) (name : String) : Option Nat :=
  table.fields.findIdx? fun field => Name.agree field.name name

/-- The fields that make up the primary key. -/
def primaryKey (table : Table) : List Field :=
  table.fields.filter fun field => field.primaryKey

theorem same_iff {a b : Table} : a.same b = true ↔ Name.fold a.name = Name.fold b.name :=
  Name.agree_iff

theorem same_refl (a : Table) : a.same a = true :=
  Name.agree_refl _

theorem same_symm {a b : Table} (h : a.same b = true) : b.same a = true :=
  Name.agree_symm h

theorem same_trans {a b c : Table} (h : a.same b = true) (h' : b.same c = true) :
    a.same c = true :=
  Name.agree_trans h h'

end Table

end SelectBinding
