import SelectBinding.Data.Members
import SelectBinding.Path
import SelectBinding.Reader
import SelectBinding.Toml.Read
import SelectBinding.Toml.Write

/-!
The settings of a project: how its statements are read and where its tables are described.

A settings file is a TOML text in which every setting may be left out and unknown ones are passed
over. The catalog file is looked for from the folder of the settings file.
-/

namespace SelectBinding

/-- How results are shown. -/
inductive OutputFormat where
  | text
  | json
deriving Repr, DecidableEq

/-- The settings of a project. -/
structure Config where
  dialect : Sql.Dialect := .ansi
  /-- The catalog file. -/
  catalog : Option String := none
  /-- Words that count as reserved besides the known ones. -/
  reservedWords : List String := []
  logFilter : String := "warn"
  format : OutputFormat := .text
  /-- The folder that the path of the catalog file starts from. The empty one is the folder in which
  the program runs. -/
  root : String := ""
deriving Repr, DecidableEq

/-- Why settings could not be had. -/
inductive ConfigError where
  | unreadable (reason : String)
  | malformed
deriving Repr, DecidableEq

namespace ConfigError

/-- The error in one line. -/
def text : ConfigError → String
  | .unreadable reason => "IO error: " ++ reason
  | .malformed => "Parse error"

end ConfigError

namespace Sql.Dialect

/-- The dialects by the names under which settings hold them. -/
def named : List (String × Dialect) :=
  [("ansi", .ansi), ("postgres", .postgres), ("sqlite", .sqlite), ("mysql", .mysql)]

/-- The name under which settings hold a dialect. -/
def name : Dialect → String
  | .ansi => "ansi"
  | .postgres => "postgres"
  | .sqlite => "sqlite"
  | .mysql => "mysql"

/-- The dialect that a value stands for. -/
def ofData? (value : Data) : Option Dialect :=
  (value.choice? .toml).bind fun name => named.lookup name

end Sql.Dialect

namespace OutputFormat

/-- The formats by their names. -/
def named : List (String × OutputFormat) :=
  [("text", .text), ("json", .json)]

/-- The name of a format. -/
def name : OutputFormat → String
  | .text => "text"
  | .json => "json"

/-- The format that a value stands for. -/
def ofData? (value : Data) : Option OutputFormat :=
  (value.choice? .toml).bind fun name => named.lookup name

/-- The format in the section of a settings file about output. -/
def ofSection? (value : Data) : Option OutputFormat :=
  match value.members? .toml ["format"] 0 with
  | some [format] => Data.withDefault? .text ofData? format
  | _ => none

end OutputFormat

namespace Config

/-- The settings that a value stands for. -/
def ofData? (value : Data) : Option Config :=
  match value.members? .toml
      ["dialect", "catalog", "reserved_keywords", "log_filter", "output"] 0 with
  | some [dialect, catalog, reservedWords, logFilter, output] => do
    let dialect ← Data.withDefault? .ansi Sql.Dialect.ofData? dialect
    let catalog ← Data.optional? Data.text? catalog
    let reservedWords ← Data.withDefault? [] (Data.listOf? Data.text?) reservedWords
    let logFilter ← Data.withDefault? "warn" Data.text? logFilter
    let format ← Data.withDefault? .text OutputFormat.ofSection? output
    return { dialect, catalog, reservedWords, logFilter, format }
  | _ => none

/-- The settings that the text of a settings file holds. -/
def ofText (text : String) : Except ConfigError Config :=
  match (Toml.read? text).bind ofData? with
  | some config => .ok config
  | none => .error .malformed

/-- The settings in the file at a path, the file being given by its text or by the reason why it
cannot be read. -/
def ofFile (path : String) (contents : Except String String) : Except ConfigError Config :=
  match contents with
  | .error reason => .error (.unreadable reason)
  | .ok text => (ofText text).map fun config => { config with root := Path.folder path }

/-- The text of a settings file. -/
def write (config : Config) : String :=
  Toml.writeLine "dialect" (Toml.writeText config.dialect.name) ++
    (match config.catalog with
      | some path => Toml.writeLine "catalog" (Toml.writeText path)
      | none => "") ++
    Toml.writeLine "reserved_keywords" (Toml.writeTexts config.reservedWords) ++
    Toml.writeLine "log_filter" (Toml.writeText config.logFilter) ++ "\n" ++
    Toml.writeHeader "output" ++ Toml.writeLine "format" (Toml.writeText config.format.name)

/-- The path of the catalog file. -/
def catalogPath? (config : Config) : Option String :=
  config.catalog.map (Path.join config.root)

/-- What reads statements over a catalog under these settings. -/
def reader (config : Config) (catalog : Catalog) : Reader :=
  { catalog
    dialect := config.dialect
    reserved := Reserved.builtin.withExtra config.reservedWords }

end Config

end SelectBinding
