import SelectBinding.Config

/-!
The arguments of the command line.

A command is given by its name. Settings for every command may stand before and after that name,
and the one after it counts; settings for one command only stand after it. A setting has a long
name after two hyphens or a letter after one, and letters may be written together. After two
hyphens alone nothing is a setting any more.
-/

namespace SelectBinding.CommandLine

/-! ### Commands and settings -/

/-- A command. -/
inductive Command where
  | check
  | explain
  | format
  | tables
deriving Repr, DecidableEq

/-- The commands by their names. -/
def commands : List (String × Command) :=
  [("check", .check), ("explain", .explain), ("format", .format), ("tables", .tables)]

/-- Whether a command is about a statement. -/
def Command.takesStatement (command : Command) : Bool :=
  command != .tables

/-- A setting. -/
inductive Setting where
  | config
  | catalog
  | format
  | verbose
  | file
  | output
  | help
  | version
deriving Repr, DecidableEq

namespace Setting

/-- The settings by their long names. -/
def named : List (String × Setting) :=
  [("config", .config), ("catalog", .catalog), ("format", .format), ("verbose", .verbose),
   ("file", .file), ("output", .output), ("help", .help), ("version", .version)]

/-- The settings by their letters. -/
def lettered : List (Char × Setting) :=
  [('c', .config), ('v', .verbose), ('f', .file), ('o', .output), ('h', .help), ('V', .version)]

/-- Whether a value belongs to the setting. -/
def takesValue : Setting → Bool
  | .verbose => false
  | .help => false
  | .version => false
  | _ => true

/-- Whether the setting may be given with a command, or before any command. -/
def fits (command : Option Command) : Setting → Bool
  | .file => (command.map Command.takesStatement).getD false
  | .output => command == some .check
  | .version => command.isNone
  | _ => true

/-- Whether the setting may have a value. No path is empty. -/
def accepts (setting : Setting) (value : String) : Bool :=
  match setting with
  | .format => (OutputFormat.named.lookup value).isSome
  | setting => !setting.takesValue || !value.isEmpty

end Setting

/-! ### What is asked for -/

/-- What the arguments ask for instead of running a command. -/
inductive Detour where
  | help
  | version
  /-- The arguments make no sense. -/
  | misuse
deriving Repr, DecidableEq

/-- Settings with their values, the last given one first. -/
abbrev Given := List (Setting × String)

/-- One more setting. None may be given twice. -/
def Given.add (given : Given) (setting : Setting) (value : String) : Except Detour Given :=
  match setting with
  | .help => .error .help
  | .version => .error .version
  | setting =>
    if (given.lookup setting).isSome || !setting.accepts value then .error .misuse
    else .ok ((setting, value) :: given)

/-- The setting with a long name. -/
def settingNamed? (command : Option Command) (name : String) : Option Setting :=
  (Setting.named.lookup name).filter (Setting.fits command)

/-- The setting with a letter. -/
def settingLettered? (command : Option Command) (letter : Char) : Option Setting :=
  (Setting.lettered.lookup letter).filter (Setting.fits command)

/-- The settings after one hyphen. The last one may be without the value that belongs to it. -/
def Given.addLetters (command : Option Command) (given : Given) :
    List Char → Except Detour (Given × Option Setting)
  | [] => .ok (given, none)
  | letter :: rest =>
    match settingLettered? command letter with
    | none => .error .misuse
    | some setting =>
      if setting.takesValue then
        match rest with
        | [] => .ok (given, some setting)
        | '=' :: value => (given.add setting (String.ofList value)).map fun given => (given, none)
        | value => (given.add setting (String.ofList value)).map fun given => (given, none)
      else (given.add setting "").bind fun given => given.addLetters command rest

/-- The setting after two hyphens. It may be without the value that belongs to it. -/
def Given.addLong (command : Option Command) (given : Given) (cs : List Char) :
    Except Detour (Given × Option Setting) :=
  let value? : Option String :=
    match cs.dropWhile fun c => c != '=' with
    | [] => none
    | _ :: value => some (String.ofList value)
  match settingNamed? command (String.ofList (cs.takeWhile fun c => c != '=')), value? with
  | none, _ => .error .misuse
  | some setting, some value =>
    if setting.takesValue then (given.add setting value).map fun given => (given, none)
    else .error .misuse
  | some setting, none =>
    if setting.takesValue then .ok (given, some setting)
    else (given.add setting "").map fun given => (given, none)

/-! ### The arguments one after the other -/

/-- What stands on the command line as far as it was read. -/
structure Arguments where
  command : Option Command := none
  /-- The settings before the command. -/
  before : Given := []
  /-- The settings since the command was given, or since the start. -/
  given : Given := []
  statement : Option String := none
deriving Repr

namespace Arguments

/-- Whether an argument can be a setting. A lone hyphen is a plain argument. -/
def isHyphened (argument : String) : Bool :=
  argument.startsWith "-" && argument != "-"

/-- The help on a command by its name, or on everything. -/
def detourToHelp : List String → Detour
  | [] => .help
  | [name] => if name == "help" || (commands.lookup name).isSome then .help else .misuse
  | _ => .misuse

/-- An argument that is no setting: the command or the statement for it. -/
def addPlain (a : Arguments) (argument : String) : Except Detour Arguments :=
  match a.command with
  | none =>
    match commands.lookup argument with
    | some command => .ok { command := some command, before := a.given }
    | none => .error .misuse
  | some command =>
    if command.takesStatement && a.statement.isNone then
      .ok { a with statement := some argument }
    else .error .misuse

/-- Arguments after two hyphens alone. The command has to be given before them. -/
def addAllPlain (a : Arguments) : List String → Except Detour Arguments
  | [] => .ok a
  | argument :: rest =>
    if a.command.isNone then .error .misuse
    else (a.addPlain argument).bind fun a => a.addAllPlain rest

/-- The arguments that follow. A setting may still wait for its value, which cannot look like a
setting. -/
def addAll (a : Arguments) (waiting : Option Setting) : List String → Except Detour Arguments
  | [] => if waiting.isSome then .error .misuse else .ok a
  | argument :: rest =>
    match waiting with
    | some setting =>
      if isHyphened argument then .error .misuse
      else
        (a.given.add setting argument).bind fun given => { a with given }.addAll none rest
    | none =>
      let added (found : Except Detour (Given × Option Setting)) : Except Detour Arguments :=
        found.bind fun (given, waiting) => { a with given }.addAll waiting rest
      match argument.toList with
      | ['-', '-'] => a.addAllPlain rest
      | '-' :: '-' :: name => added (a.given.addLong a.command name)
      | '-' :: letter :: letters => added (a.given.addLetters a.command (letter :: letters))
      | _ =>
        if a.command.isNone && argument == "help" then .error (detourToHelp rest)
        else (a.addPlain argument).bind fun a => a.addAll none rest

/-- The value of a setting. The one given after the command counts. -/
def value? (a : Arguments) (setting : Setting) : Option String :=
  (a.given.lookup setting).or (a.before.lookup setting)

end Arguments

/-! ### Requests -/

/-- Where the statement is to be found. -/
inductive StatementPlace where
  | inline (statement : String)
  | file (path : String)
  | nowhere
deriving Repr, DecidableEq

/-- What the command line asks for. -/
structure Request where
  command : Command
  statement : StatementPlace
  configPath : Option String
  catalogPath : Option String
  format : Option OutputFormat
  reportPath : Option String
  verbose : Bool
deriving Repr, DecidableEq

/-- The request that arguments make. A statement is given once. -/
def Arguments.request (a : Arguments) : Except Detour Request := do
  let some command := a.command | .error .misuse
  let statement ←
    match a.statement, a.value? .file with
    | some _, some _ => .error .misuse
    | some statement, none => .ok (.inline statement)
    | none, some path => .ok (.file path)
    | none, none => .ok .nowhere
  return { command
           statement
           configPath := a.value? .config
           catalogPath := a.value? .catalog
           format := (a.value? .format).bind fun name => OutputFormat.named.lookup name
           reportPath := a.value? .output
           verbose := (a.value? .verbose).isSome }

/-- The request that a command line makes. -/
def Request.ofArguments (arguments : List String) : Except Detour Request :=
  ((({} : Arguments).addAll none arguments).bind Arguments.request)

end SelectBinding.CommandLine
