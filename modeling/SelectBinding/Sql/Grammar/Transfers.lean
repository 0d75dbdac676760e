import SelectBinding.Sql.Grammar.Options
import SelectBinding.Text.Unprintable

/-!
Statements that move rows between tables and files, load extensions, and send messages. Nothing is
kept of them.
-/

namespace SelectBinding.Sql.Grammar

open Sql.Parser

/-! ### Copying -/

/-- A string of one byte. -/
def literalCharacter : Parser Unit := do
  let t ← peek
  let text ← literalString
  unless text.utf8ByteSize = 1 do
    failAt ("Expect a char, found " ++ Text.spelledOut text) t.place

/-- A truth value, perhaps not said. -/
def optionalTruth : Parser Unit :=
  discard (oneOf ["TRUE", "FALSE"])

/-- An option of a copy. -/
def copyOption : Parser Unit := do
  match ← oneOf ["FORMAT", "FREEZE", "DELIMITER", "NULL", "HEADER", "QUOTE", "ESCAPE",
      "FORCE_QUOTE", "FORCE_NOT_NULL", "FORCE_NULL", "ENCODING"] with
  | some "FORMAT" => discard identifier
  | some "FREEZE" | some "HEADER" => optionalTruth
  | some "DELIMITER" | some "QUOTE" | some "ESCAPE" => literalCharacter
  | some "NULL" | some "ENCODING" => discard literalString
  | some _ => discard columnNames
  | none => expected "option" (← peek)

/-- An option of a table of values that stands outside parentheses. -/
def bareTableOption : Parser Unit := do
  match ← oneOf ["HEADER", "QUOTE", "ESCAPE", "FORCE"] with
  | some "HEADER" => return ()
  | some "FORCE" =>
    if ← keywords ["NOT", "NULL"] then discard (commaSeparated identifier)
    else if ← keyword "QUOTE" then discard (commaSeparated identifier)
    else expected "csv option" (← peek)
  | some _ =>
    let _ ← keyword "AS"
    literalCharacter
  | none => expected "csv option" (← peek)

/-- Options that stand one after another, as far as they can be read. -/
def bareOptions (option : Parser Unit) : Parser Unit :=
  repeatedly (fun _ => maybe option) ()

/-- An option of a copy that stands outside parentheses. -/
def bareCopyOption : Parser Unit := do
  match ← oneOf ["BINARY", "DELIMITER", "NULL", "CSV"] with
  | some "BINARY" => return ()
  | some "CSV" => bareOptions bareTableOption
  | some "NULL" =>
    let _ ← keyword "AS"
    discard literalString
  | some _ =>
    let _ ← keyword "AS"
    literalCharacter
  | none => expected "option" (← peek)

/-- The rows that are written into the statement itself, up to a backslash with a point. -/
def rowsInPlace : Parser Unit :=
  repeatedly (fun _ => do
    let t ← next
    match t.token with
    | .finish => return none
    | .sign "\\" =>
      if ← sign "." then return none
      else
        let _ ← next
        return some ()
    | _ => return some ()) ()

/-- Where rows are copied from or to; whether they are written into the statement itself. -/
def copyTarget : Parser Bool := do
  if ← keyword "STDIN" then return true
  else if ← keyword "STDOUT" then return false
  else
    let _ ← keyword "PROGRAM"
    let _ ← literalString
    return false

/-- A copy, after the keyword. -/
def copying (inner : Inner) : Parser Unit := do
  let fromQuery ← peekSign "("
  if fromQuery then discard (parenthesized inner.query)
  else
    let _ ← objectName
    discard optionalColumnNames
  match ← oneOf ["FROM", "TO"] with
  | none => expected "FROM or TO" (← peek)
  | some direction =>
    if fromQuery && direction == "FROM" then
      fail "COPY ... FROM does not support query as a source"
  let inPlace ← copyTarget
  let _ ← keyword "WITH"
  if ← peekSign "(" then discard (parenthesized (commaSeparated copyOption))
  bareOptions bareCopyOption
  if inPlace then
    expectSign ";"
    rowsInPlace

/-- The writing of the rows of a query into files, after the keyword. -/
def unloading (inner : Inner) : Parser Unit := do
  let _ ← parenthesized inner.query
  expectKeyword "TO"
  let _ ← identifier
  discard (optionsAfter inner "WITH")

/-! ### Extensions and messages -/

/-- The loading of an extension, after the keyword. -/
def loading : Parser Unit := do
  if ← dialectIn [.ansi, .postgres] then discard identifier
  else
    let _ ← keyword "DATA"
    expected "\x60DATA\x60 or an extension name after \x60LOAD\x60" (← peek)

/-- The channel that is listened to no more, after the keyword. -/
def silencing : Parser Unit := do
  unless ← sign "*" do
    let t ← peek
    match ← maybe identifier with
    | some _ => return ()
    | none => expected "wildcard or identifier" t

/-- A message, after the keyword. -/
def message : Parser Unit := do
  let _ ← identifier
  if ← sign "," then discard literalString

end SelectBinding.Sql.Grammar
