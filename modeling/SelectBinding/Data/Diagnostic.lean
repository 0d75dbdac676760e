import SelectBinding.Data.Members
import SelectBinding.Diagnostic

/-!
Errors as files hold them.
-/

namespace SelectBinding

/-- The kind that a value stands for: its key, or a record of its key and null. -/
def ErrorKind.ofData? : Data → Option ErrorKind
  | .text key => ofKey? key
  | .record [(key, .null)] => ofKey? key
  | _ => none

namespace Diagnostic

/-- An error as files hold it. -/
def toData (e : Diagnostic) : Data :=
  .record ([("kind", .text e.kind.key), ("message", .text e.message)] ++
    Data.optionalMember "details" .text e.details ++ [("token", .text e.token)] ++
    Data.optionalMember "position" Data.nat e.position)

/-- The error that a value stands for. -/
def ofData? (value : Data) : Option Diagnostic :=
  match value.members? .json ["kind", "message", "details", "token", "position"] 2 with
  | some [kind, message, details, token, position] => do
    let kind ← Data.required? ErrorKind.ofData? kind
    let message ← Data.required? Data.text? message
    let details ← Data.optional? Data.text? details
    let token ← Data.withDefault? "" Data.text? token
    let position ← Data.optional? (Data.natBelow? UInt64.size) position
    return { kind, message, details, token, position }
  | _ => none

end Diagnostic

end SelectBinding
