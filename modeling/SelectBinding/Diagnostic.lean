/-!
The one error of an attempt to read or bind a statement.

An error has a kind, a message for direct display and perhaps a longer explanation; it may name the
piece of the statement it is about and where that piece starts, counted in characters.
-/

namespace SelectBinding

/-- What kind of mistake an error reports. -/
inductive ErrorKind where
  /-- The statement is not of the language, found before any name was looked at. -/
  | grammar
  /-- A table, a field or a sorting criterion that does not exist. -/
  | reference
  /-- A name that stands for more than one table or field. -/
  | ambiguity
  /-- An item of the column list or the table list that has no meaning there. -/
  | shape
  /-- A state that no statement should lead to. -/
  | implementation
  /-- No statement at all. -/
  | input
deriving Repr, DecidableEq

namespace ErrorKind

/-- The kind as it is shown to a user. -/
def label : ErrorKind → String
  | .grammar => "Syntax Error"
  | .reference => "Reference Error"
  | .ambiguity => "Ambiguity Error"
  | .shape => "Field List Error"
  | .implementation => "Implementation error"
  | .input => "Error"

/-- The kind as it is stored. -/
def key : ErrorKind → String
  | .grammar => "syntax"
  | .reference => "reference"
  | .ambiguity => "ambiguity"
  | .shape => "shape"
  | .implementation => "implementation"
  | .input => "input"

/-- Every kind. -/
def all : List ErrorKind :=
  [.grammar, .reference, .ambiguity, .shape, .implementation, .input]

/-- The kind stored under `key`. -/
def ofKey? (key : String) : Option ErrorKind :=
  all.find? fun kind => kind.key == key

end ErrorKind

/-- An error of a statement. -/
structure Diagnostic where
  kind : ErrorKind
  message : String
  details : Option String := none
  /-- The piece of the statement the error is about, perhaps empty. -/
  token : String := ""
  /-- Where that piece starts. -/
  position : Option Nat := none
deriving Repr, DecidableEq

namespace Diagnostic

/-- The error at a place of the statement. -/
def located (e : Diagnostic) (token : String) (position : Option Nat) : Diagnostic :=
  { e with token, position }

/-- The error, placed unless it has a place already. -/
def orAt (e : Diagnostic) (token : String) (position : Option Nat) : Diagnostic :=
  match e.position with
  | some _ => e
  | none => e.located token position

/-- Whether the error is a mistake of the user. -/
def isUserError (e : Diagnostic) : Bool :=
  e.kind != .implementation

/-- The error in one line. -/
def text (e : Diagnostic) : String :=
  e.kind.label ++ ": " ++ e.message ++
    match e.details with
    | some details => ". " ++ details
    | none => ""

/-- A line with a caret under the place of the error. -/
def pointer? (e : Diagnostic) : Option String :=
  e.position.map fun position => String.ofList (List.replicate position ' ') ++ "^"

/-- A statement on one line: what breaks or shifts a line becomes a blank. -/
def onOneLine (statement : String) : String :=
  String.ofList (statement.toList.map fun c =>
    if c = '\n' ∨ c = '\r' ∨ c = '\t' then ' ' else c)

/-- The error for a user, followed by the statement and a caret when the place is known. -/
def render (e : Diagnostic) (statement : String) : String :=
  e.text ++ "\n" ++
    match e.pointer? with
    | some pointer => onOneLine statement ++ "\n" ++ pointer ++ "\n"
    | none => ""

end Diagnostic

end SelectBinding
