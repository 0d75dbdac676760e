import SelectBinding.Catalog
import SelectBinding.Data.Schema
import SelectBinding.Json.Read
import SelectBinding.Json.Write
import SelectBinding.Path
import SelectBinding.Toml.Read

/-!
Catalogs in files.

The extension of a file's name says in which of two formats it is. A catalog is written with its
tables in the order of their names, and reading what was written gives a catalog of the same tables.
-/

namespace SelectBinding

namespace FileFormat

/-- The format of the file at a path. -/
def ofPath? (path : String) : Option FileFormat :=
  match (Path.extension? path).map Name.fold with
  | some "json" => some .json
  | some "toml" => some .toml
  | _ => none

/-- The value that a text in a format stands for. -/
def read? (format : FileFormat) (text : String) : Option Data :=
  match format with
  | .json => Json.read? text
  | .toml => Toml.read? text

end FileFormat

namespace Catalog

/-- The catalog that a text in a format holds. -/
def ofText (format : FileFormat) (text : String) : Except CatalogError Catalog :=
  match (format.read? text).bind (Table.allOfData? format) with
  | some tables => ofTables tables
  | none => .error .malformed

/-- The catalog in the file at a path, the file being given by its text or by the reason why it
cannot be read. -/
def ofFile (path : String) (contents : Except String String) : Except CatalogError Catalog :=
  match contents with
  | .error reason => .error (.unreadable (path ++ ": " ++ reason))
  | .ok text =>
    match FileFormat.ofPath? path with
    | some format => ofText format text
    | none => .error (.unsupportedFormat path)

/-- The catalog as files hold it. -/
def toData (catalog : Catalog) : Data :=
  Table.allToData catalog.sorted

/-- The text of the JSON file that holds the catalog. -/
def write (catalog : Catalog) : String :=
  Json.write catalog.toData

end Catalog

end SelectBinding
