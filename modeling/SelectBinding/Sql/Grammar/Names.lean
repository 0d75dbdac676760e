import SelectBinding.Decimal.Numeral
import SelectBinding.Reserved
import SelectBinding.Sql.Keyword
import SelectBinding.Sql.Parser
import SelectBinding.Sql.TreeText

/-!
Names, literals and aliases.

A string may stand for a name in many places; such a name stands nowhere as far as messages are
concerned.
-/

namespace SelectBinding.Sql.Grammar

open Sql.Parser

/-- The name that a word is. -/
def wordIdent (value : String) (quote : Option Char) (place : Location) : Ident :=
  ⟨value, quote, place⟩

/-- The name that a string is. -/
def stringIdent (quote : Char) (value : String) : Ident :=
  ⟨value, some quote, .nowhere⟩

/-- A name. -/
def identifier : Parser Ident := do
  let t ← next
  match t.token with
  | .word value quote => return wordIdent value quote t.place
  | .string .plain value => return stringIdent '\'' value
  | .string .inDouble value => return stringIdent '"' value
  | _ => expected "identifier" t

/-- A name of one or more parts with points between them. -/
def objectName : Parser (List Ident) := do
  let first ← identifier
  return first :: (← many (sign ".") identifier)

/-- The text of a name of one or more parts. -/
def objectNameText : Parser String :=
  return pathText (← objectName)

/-- The names of columns in parentheses. -/
def columnNames : Parser (List Ident) := do
  if ← sign "(" then
    let names ← commaSeparated identifier
    expectSign ")"
    return names
  else expected "a list of columns in parentheses" (← peek)

/-- The texts of names of columns in parentheses. -/
def columnNameTexts : Parser (List String) :=
  return (← columnNames).map Ident.text

/-- The names of columns in parentheses, perhaps none. -/
def optionalColumnNames : Parser (List String) := do
  if ← peekSign "(" then columnNameTexts else return []

/-- The names of columns in parentheses, perhaps none; the parentheses may be empty. -/
def columnNamesOrNone : Parser (List String) := do
  if (← peekSign "(") && (← peekAt 1).token == .sign ")" then
    let _ ← next
    let _ ← next
    return []
  else optionalColumnNames

/-- The message about a number that is no natural number of so many bits. Of two things that are
wrong with it the first one counts. -/
def numberMessage (bits : Nat) (spelling : String) : String :=
  "Could not parse '" ++ spelling ++ "' as u" ++ toString bits ++ ": " ++
    if spelling.isEmpty then "cannot parse integer from empty string"
    else if Nat.pow 2 bits ≤ Decimal.digitsValue (spelling.toList.takeWhile Char.isDigit) then
      "number too large to fit in target type"
    else "invalid digit found in string"

/-- The natural number of so many bits, 64 of them at most, that is spelled at `place`. -/
def natOfBits (bits : Nat) (spelling : String) (place : Location) : Parser Nat :=
  match (Decimal.word64? spelling).filter fun n => n < Nat.pow 2 bits with
  | some n => return n
  | none => failAt (numberMessage bits spelling) place

/-- A natural number of so many bits, 64 of them at most. -/
def nat (bits : Nat) : Parser Nat := do
  let t ← next
  match t.token with
  | .number spelling _ => natOfBits bits spelling t.place
  | _ => expected "literal int" t

/-- A natural number of 64 bits. -/
def literalNat : Parser Nat :=
  nat 64

/-- Whether a token is a bare or quoted word that is no keyword. -/
def isFreeWord : Token → Bool
  | .word _ (some _) => true
  | .word value none => !allKeywords.contains (Token.capitalized value)
  | _ => false

/-- A string, or a bare or quoted word that is no keyword. -/
def literalString : Parser String := do
  let t ← next
  let escapes ← dialectIn [.ansi, .postgres]
  match t.token with
  | .word value _ =>
    if isFreeWord t.token then return value else expected "literal string" t
  | .string .plain value => return value
  | .string .inDouble value => return value
  | .string .unicode value => return value
  | .string .escaped value => if escapes then return value else expected "literal string" t
  | _ => expected "literal string" t

/-- The parameter after a colon or an at sign. -/
def namedParameter (mark : String) : Parser Literal := do
  let t ← next
  match t.token with
  | .word value _ => return .other (mark ++ value)
  | .number spelling false => return .other (mark ++ spelling)
  | _ => expected "placeholder" t

/-- The literal that a word is. -/
def wordLiteral (t : Located) : Parser Literal :=
  match t.token with
  | .word value (some '"') => return .other (quoted '"' value)
  | .word _ (some _) => expected "A value?" t
  | token =>
    if token.isKeyword "TRUE" then return .boolean true
    else if token.isKeyword "FALSE" then return .boolean false
    else if token.isKeyword "NULL" then return .null
    else expected "a concrete value" t

/-- A literal. -/
def literal : Parser Literal := do
  let t ← next
  let escapes ← dialectIn [.ansi, .postgres]
  match t.token with
  | .word _ _ => wordLiteral t
  | .number spelling long => return .number spelling long
  | .string .escaped value =>
    if escapes then return StringKind.escaped.literal value else expected "a value" t
  | .string kind value => return kind.literal value
  | .parameter spelling => return .other spelling
  | .sign ":" => namedParameter ":"
  | .sign "@" => namedParameter "@"
  | _ => expected "a value" t

/-- The text of a literal. -/
def literalText : Parser String :=
  return (← literal).spelling

/-- A number, or a parameter that stands for one. -/
def numeral : Parser String := do
  let t ← peek
  let value ← ahead literal
  match t.token with
  | .number _ _ | .parameter _ | .sign _ =>
    let _ ← literal
    return value.spelling
  | _ => expected "literal number" t

/-- A number that may have a sign before it. -/
def signedNumeral : Parser String := do
  if ← sign "+" then return "+" ++ (← numeral)
  else if ← sign "-" then return "-" ++ (← numeral)
  else numeral

/-- An alias after `AS` or without it; without it, a bare word must not be among the reserved
ones. -/
def optionalAlias (reserved : List String) : Parser (Option Ident) := do
  let afterAs ← keyword "AS"
  let t ← peek
  let taken (ident : Ident) : Parser (Option Ident) := do
    let _ ← next
    return some ident
  let missing : Parser (Option Ident) := do
    if afterAs then
      let _ ← next
      expected "an identifier after AS" t
    else return none
  match t.token with
  | .word value quote =>
    if afterAs || !t.token.isOneOf reserved then taken (wordIdent value quote t.place)
    else missing
  | .string .plain value => taken (stringIdent '\'' value)
  | .string .inDouble value => taken (stringIdent '"' value)
  | _ => missing

end SelectBinding.Sql.Grammar
