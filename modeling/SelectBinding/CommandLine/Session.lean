import SelectBinding.CommandLine.Arguments
import SelectBinding.Catalog.File
import SelectBinding.Query.Trace
import SelectBinding.Report.File
import SelectBinding.Report.Listing

/-!
Commands of the command line, over files of any kind.

A session prints lines of results and lines of remarks and ends with a status: 0 when all went well,
1 when something was wrong with a file or a statement, and 2 when the arguments made no sense.
-/

namespace SelectBinding.CommandLine

/-- Access to files by their paths. What cannot be read or written gives the reason. -/
structure Files (m : Type → Type) where
  read : String → m (Except String String)
  write : String → String → m (Except String Unit)
  isThere : String → m Bool

/-- What a session has printed. -/
structure Printed where
  results : String := ""
  remarks : String := ""
deriving Repr, DecidableEq

/-- What became of a session. -/
structure Ending where
  status : Nat
  printed : Printed
deriving Repr, DecidableEq

/-- A session, which may end early with a status. -/
abbrev Session (m : Type → Type) := ExceptT Nat (StateT Printed m)

namespace Session

variable {m : Type → Type} [Monad m]

/-- A line of results. -/
def print (line : String) : Session m Unit :=
  modify fun printed => { printed with results := printed.results ++ line ++ "\n" }

/-- A remark on a line of its own. -/
def remark (line : String) : Session m Unit :=
  modify fun printed => { printed with remarks := printed.remarks ++ line ++ "\n" }

/-- The end of the session because of an error. -/
def giveUp {α : Type} (problem : String) : Session m α := do
  remark ("Error: " ++ problem)
  throw 1

/-- The value of a step, whose error ends the session. -/
def orGiveUp {α ε : Type} (problem : ε → String) : Except ε α → Session m α
  | .ok a => pure a
  | .error e => giveUp (problem e)

/-- A step outside the session. -/
def outside {α : Type} (step : m α) : Session m α :=
  ExceptT.lift (StateT.lift step)

/-- What becomes of the session. -/
def finish (session : Session m Unit) : m Ending := do
  let (outcome, printed) ← session.run.run {}
  match outcome with
  | .ok () => return { status := 0, printed }
  | .error status => return { status, printed }

end Session

/-- The settings file that is read when no other one is named. -/
def standardConfigPath : String := "querybind.toml"

/-- The name and the version of the program. -/
def versionLine : String := "querybind 0.1.0"

/-- A short reminder of the arguments. -/
def usageLine : String :=
  "Usage: querybind [OPTIONS] <check|explain|format|tables> [STATEMENT]"

/-- The name of a dialect in a remark. -/
def dialectName : Sql.Dialect → String
  | .ansi => "Ansi"
  | .postgres => "Postgres"
  | .sqlite => "Sqlite"
  | .mysql => "Mysql"

/-- The text without white space at its end. -/
def withoutTrailingBlanks (text : String) : String :=
  String.ofList (text.toList.reverse.dropWhile Text.isBlank).reverse

/-- A line without the mark of a line break that is left at its end. -/
def withoutReturn (line : String) : String :=
  match line.toList.reverse with
  | '\r' :: rest => String.ofList rest.reverse
  | _ => line

/-- The lines of a text. An end of line at the end of the text starts no line. -/
def linesOf (text : String) : List String :=
  let parts := text.splitOn "\n"
  ((if parts.getLast? == some "" then parts.dropLast else parts)).map withoutReturn

section

variable {m : Type → Type} [Monad m] (files : Files m) (request : Request)

/-- A remark that is made on demand only. -/
def detail (line : String) : Session m Unit :=
  if request.verbose then Session.remark line else pure ()

/-- The settings of the project. -/
def config : Session m Config := do
  let load (path : String) : Session m Config := do
    Session.orGiveUp ConfigError.text (Config.ofFile path (← Session.outside (files.read path)))
  match request.configPath with
  | some path => load path
  | none =>
    if ← Session.outside (files.isThere standardConfigPath) then load standardConfigPath
    else return {}

/-- The catalog of the project. -/
def catalog (config : Config) : Session m Catalog := do
  match request.catalogPath.or config.catalogPath? with
  | none =>
    Session.giveUp
      "No catalog file given; pass --catalog or set \x60catalog\x60 in querybind.toml"
  | some path =>
    detail request ("Loading catalog from: " ++ path)
    Session.orGiveUp (fun e => "Failed to load catalog " ++ path ++ ": " ++ CatalogError.text e)
      (Catalog.ofFile path (← Session.outside (files.read path)))

/-- The statement that a command is about. -/
def statement : Session m String := do
  match request.statement with
  | .inline sql => return sql
  | .file path =>
    Session.orGiveUp
      (fun reason => "Failed to read statement from " ++ path ++ "\n\nCaused by:\n    " ++ reason)
      (← Session.outside (files.read path))
  | .nowhere => Session.giveUp "No statement given; pass it inline or with --file"

/-- The end of the session because of an error in the statement. -/
def refuse {α : Type} (sql : String) (e : Diagnostic) : Session m α := do
  match linesOf (e.render (withoutTrailingBlanks sql)) with
  | [] => pure ()
  | first :: rest =>
    Session.remark ((if e.isUserError then "" else "internal: ") ++ first)
    rest.forM Session.remark
  throw 1

/-- The query that the statement stands for. -/
def query (reader : Reader) (sql : String) : Session m Query :=
  match reader.query sql with
  | .ok q => pure q
  | .error e => refuse sql e

/-- Checks the statement, and writes a report first if there is a place for it. -/
def check (reader : Reader) (sql : String) : Session m Unit := do
  let outcome := reader.query sql
  match request.reportPath with
  | none => pure ()
  | some path =>
    let report := Report.ofOutcome sql outcome
    Session.orGiveUp id (← Session.outside (files.write path report.write))
    detail request ("Report saved to: " ++ path)
  match outcome with
  | .ok q =>
    Session.print "OK"
    detail request q.trace
  | .error e => refuse sql e

/-- Prints a description of the query. -/
def explain (reader : Reader) (format : OutputFormat) (sql : String) : Session m Unit := do
  let description := (← query reader sql).describe
  match format with
  | .json => Session.print (Json.pretty description.toData)
  | .text => description.lines.forM Session.print

/-- Prints the tables of the catalog. -/
def tables (catalog : Catalog) (format : OutputFormat) : Session m Unit :=
  match format with
  | .json => Session.print (Json.pretty (.list (catalog.sorted.map Table.toData)))
  | .text => catalog.lines.forM Session.print

/-- A session for a request. -/
def session : Session m Unit := do
  let config ← config files request
  detail request ("Using dialect: " ++ dialectName config.dialect)
  let catalog ← catalog files request config
  let reader := config.reader catalog
  let format := request.format.getD config.format
  match request.command with
  | .check => check files request reader (← statement files request)
  | .explain => explain reader format (← statement files request)
  | .format => do
    let q ← query reader (← statement files request)
    Session.print (reader.render q)
  | .tables => tables catalog format

end

/-- Runs a command line. -/
def run {m : Type → Type} [Monad m] (files : Files m) (arguments : List String) : m Ending :=
  match Request.ofArguments arguments with
  | .ok request => (session files request).finish
  | .error .help => return { status := 0, printed := { results := usageLine ++ "\n" } }
  | .error .version => return { status := 0, printed := { results := versionLine ++ "\n" } }
  | .error .misuse => return { status := 2, printed := { remarks := usageLine ++ "\n" } }

end SelectBinding.CommandLine
