import SelectBinding.CommandLine.Folder
import SelectBinding.CommandLine.Session

/-!
The program: the command line over the files of the system.
-/

namespace SelectBinding.CommandLine

/-- What the system says about a file. -/
def systemReason : IO.Error → String
  | .noFileOrDirectory _ code details => withCode code details
  | .permissionDenied _ code details => withCode code details
  | .inappropriateType _ code details => withCode code details
  | .alreadyExists _ code details => withCode code details
  | .invalidArgument _ code details => withCode code details
  | .resourceExhausted _ code details => withCode code details
  | e => toString e
where
  withCode (code : UInt32) (details : String) : String :=
    details ++ " (os error " ++ toString code ++ ")"

/-- What a step on the file at a path yields, or the reason why it fails. -/
def stepAt {α : Type} (path : String) (step : IO α) : IO (Except String α) := do
  if Path.hasNul path then return .error Refusal.hasNul.text
  else
    match ← step.toBaseIO with
    | .ok a => return .ok a
    | .error e => return .error (systemReason e)

/-- The bytes of a file. -/
def readBytes (path : String) : IO ByteArray := do
  (← IO.FS.Handle.mk path .read).readBinToEnd

/-- The text of a file, which has to be UTF-8. -/
def readText (path : String) : IO (Except String String) := do
  match ← stepAt path (readBytes path) with
  | .error reason => return .error reason
  | .ok bytes =>
    match String.fromUTF8? bytes with
    | some text => return .ok text
    | none => return .error "stream did not contain valid UTF-8"

/-- The files of the system. -/
def systemFiles : Files IO where
  read := readText
  write path text := stepAt path (IO.FS.writeFile path text)
  isThere path := do
    match ← (readBytes path).toBaseIO with
    | .error (.noFileOrDirectory _ _ _) => return false
    | _ => return true

end SelectBinding.CommandLine

/-- Runs the command line, prints what it has to say and gives its status to the system. -/
def main (arguments : List String) : IO UInt32 := do
  let ending ← SelectBinding.CommandLine.run SelectBinding.CommandLine.systemFiles arguments
  IO.print ending.printed.results
  IO.eprint ending.printed.remarks
  return UInt32.ofNat ending.status
