import SelectBinding.Schema

/-!
The tables a statement may use.

A catalog holds no two tables of the same name.
-/

namespace SelectBinding

/-- A set of tables, each under its own name. -/
structure Catalog where
  tables : List Table := []
deriving Repr

/-- What statements are read against: the table that a name stands for, if there is one. -/
abbrev Lookup := String → Option Table

/-- Why a table or a file could not be had. -/
inductive CatalogError where
  | tableNotFound (name : String)
  | duplicateTable (name : String)
  | unreadable (message : String)
  | malformed
  | unsupportedFormat (path : String)
deriving Repr, DecidableEq

namespace CatalogError

/-- The error in one line. -/
def text : CatalogError → String
  | .tableNotFound name => "Table not found: " ++ name
  | .duplicateTable name => "Duplicate table: " ++ name
  | .unreadable message => "IO error: " ++ message
  | .malformed => "Parse error"
  | .unsupportedFormat path => "Unsupported catalog file: " ++ path

end CatalogError

namespace Catalog

/-- The catalog without tables. -/
def empty : Catalog := {}

/-- The table called `name`. -/
def lookup? (catalog : Catalog) (name : String) : Option Table :=
  catalog.tables.find? fun table => table.hasName name

/-- Names that agree are looked up as the same table. -/
theorem lookup?_congr {name name' : String} (h : Name.agree name name' = true)
    (catalog : Catalog) : catalog.lookup? name = catalog.lookup? name' := by
  simp only [lookup?, Table.hasName, Name.agree_congr_right h]

/-- A catalog finds a table by its own name. -/
theorem hasName_of_lookup? {catalog : Catalog} {name : String} {table : Table}
    (h : catalog.lookup? name = some table) : table.hasName name = true := by
  unfold lookup? at h
  simpa using List.find?_some h

/-- A catalog is one of the things that statements can be read against. -/
instance : Coe Catalog Lookup := ⟨lookup?⟩

/-- The table called `name`, or the error that there is none. -/
def table (catalog : Catalog) (name : String) : Except CatalogError Table :=
  match catalog.lookup? name with
  | some table => .ok table
  | none => .error (.tableNotFound name)

/-- Whether there is a table called `name`. -/
def hasTable (catalog : Catalog) (name : String) : Bool :=
  (catalog.lookup? name).isSome

/-- The catalog with one more table, which must have a name of its own. -/
def add (catalog : Catalog) (table : Table) : Except CatalogError Catalog :=
  if catalog.hasTable table.name then .error (.duplicateTable table.name)
  else .ok ⟨catalog.tables ++ [table]⟩

/-- The catalog without the table called `name`. -/
def remove (catalog : Catalog) (name : String) : Catalog :=
  ⟨catalog.tables.filter fun table => !table.hasName name⟩

/-- The catalog with a list of tables added one after the other. -/
def addAll (catalog : Catalog) : List Table → Except CatalogError Catalog
  | [] => .ok catalog
  | table :: rest =>
    match catalog.add table with
    | .error e => .error e
    | .ok catalog => catalog.addAll rest

/-- The catalog of a list of tables. -/
def ofTables (tables : List Table) : Except CatalogError Catalog :=
  empty.addAll tables

/-- How many tables the catalog holds. -/
def size (catalog : Catalog) : Nat :=
  catalog.tables.length

/-- The order of texts by their code points, which is the order of their UTF-8 bytes. -/
def textLe : List Char → List Char → Bool
  | [], _ => true
  | _ :: _, [] => false
  | a :: as, b :: bs => a.toNat < b.toNat || (a == b && textLe as bs)

/-- Whether the name of one table comes no later than that of another. -/
def nameLe (a b : Table) : Bool :=
  textLe a.name.toList b.name.toList

/-- A table put before the first one whose name does not come earlier. -/
def insertByName (table : Table) : List Table → List Table
  | [] => [table]
  | other :: rest =>
    if nameLe table other then table :: other :: rest else other :: insertByName table rest

/-- The tables in the order of their names. -/
def sorted (catalog : Catalog) : List Table :=
  catalog.tables.foldr insertByName []

/-- The names of the tables, in order. -/
def names (catalog : Catalog) : List String :=
  catalog.sorted.map Table.name

end Catalog

end SelectBinding
