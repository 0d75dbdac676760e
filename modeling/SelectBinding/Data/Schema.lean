import SelectBinding.Data.Members
import SelectBinding.Schema

/-!
Tables as data files hold them.

A type without parameters is given by its name. A decimal type is a record of its precision and
scale.
-/

namespace SelectBinding

namespace LogicalType

/-- The types without parameters, by the names under which files hold them. -/
def named : List (String × LogicalType) :=
  [("bool", .bool), ("int", .int), ("float", .float), ("string", .string), ("date", .date),
   ("timestamp", .timestamp), ("blob", .blob), ("unknown", .unknown)]

/-- The type without parameters called `name`. -/
def ofName? (name : String) : Option LogicalType :=
  named.lookup name

/-- Whether a record of parameters has only members that are known. -/
def onlyParameters (format : FileFormat) (value : Data) : Bool :=
  match format, value with
  | .toml, .record members =>
    members.all fun member => member.1 == "precision" || member.1 == "scale"
  | _, _ => true

/-- The decimal type with parameters. -/
def ofParameters? (format : FileFormat) (value : Data) : Option LogicalType :=
  match value.members? format ["precision", "scale"] 2 with
  | some [precision, scale] => do
    let precision ← Data.optional? (Data.natBelow? UInt16.size) precision
    let scale ← Data.optional? (Data.natBelow? UInt16.size) scale
    if onlyParameters format value then some (.decimal precision scale) else none
  | _ => none

/-- The type that a value stands for. -/
def ofData? (format : FileFormat) (value : Data) : Option LogicalType :=
  match value with
  | .record [("decimal", parameters)] => ofParameters? format parameters
  | value => (value.choice? format).bind ofName?

/-- A type as files hold it. -/
def toData : LogicalType → Data
  | .bool => .text "bool"
  | .int => .text "int"
  | .float => .text "float"
  | .decimal precision scale =>
    .record [("decimal",
      .record [("precision", Data.option Data.nat precision),
               ("scale", Data.option Data.nat scale)])]
  | .string => .text "string"
  | .date => .text "date"
  | .timestamp => .text "timestamp"
  | .blob => .text "blob"
  | .unknown => .text "unknown"

end LogicalType

namespace Field

/-- The field that a value stands for. -/
def ofData? (format : FileFormat) (value : Data) : Option Field :=
  match value.members? format ["name", "type", "primary_key", "auto_increment", "not_null"] 1 with
  | some [name, type, primaryKey, autoIncrement, notNull] => do
    let name ← Data.required? Data.text? name
    let type ← Data.withDefault? .unknown (LogicalType.ofData? format) type
    let primaryKey ← Data.withDefault? false Data.bool? primaryKey
    let autoIncrement ← Data.withDefault? false Data.bool? autoIncrement
    let notNull ← Data.withDefault? false Data.bool? notNull
    return { name, type, primaryKey, autoIncrement, notNull }
  | _ => none

/-- A field as files hold it. -/
def toData (field : Field) : Data :=
  .record [("name", .text field.name), ("type", field.type.toData),
    ("primary_key", .bool field.primaryKey), ("auto_increment", .bool field.autoIncrement),
    ("not_null", .bool field.notNull)]

end Field

namespace Table

/-- The table that a value stands for. -/
def ofData? (format : FileFormat) (value : Data) : Option Table :=
  match value.members? format ["name", "caption", "fields"] 1 with
  | some [name, caption, fields] => do
    let name ← Data.required? Data.text? name
    let caption ← Data.optional? Data.text? caption
    let fields ← Data.withDefault? [] (Data.listOf? (Field.ofData? format)) fields
    return { name, caption, fields }
  | _ => none

/-- A table as files hold it. -/
def toData (table : Table) : Data :=
  .record ([("name", .text table.name)] ++ Data.optionalMember "caption" .text table.caption ++
    [("fields", .list (table.fields.map Field.toData))])

/-- The tables that the value of a catalog file stands for. -/
def allOfData? (format : FileFormat) (value : Data) : Option (List Table) :=
  match value.members? format ["tables"] 0 with
  | some [tables] => Data.withDefault? [] (Data.listOf? (ofData? format)) tables
  | _ => none

/-- A list of tables as a catalog file holds it. -/
def allToData (tables : List Table) : Data :=
  .record [("tables", .list (tables.map toData))]

end Table

end SelectBinding
