import SelectBinding.Sql.Grammar.Call

/-!
The forms of expressions that begin with a keyword. Each parser here starts after the keyword.
-/

namespace SelectBinding.Sql.Grammar

open Sql.Parser

/-- The conditions and results of a choice after a `WHEN`. -/
def branches (inner : Inner) : Parser (List String) := do
  let branch : Parser String := do
    let condition ← inner.termText
    expectKeyword "THEN"
    return " WHEN " ++ condition ++ " THEN " ++ (← inner.termText)
  let first ← branch
  return first :: (← many (keyword "WHEN") branch)

/-- A choice. -/
def caseForm (inner : Inner) : Parser Term := do
  let subject ←
    if ← keyword "WHEN" then pure ""
    else do
      let subject ← inner.termText
      expectKeyword "WHEN"
      pure (" " ++ subject)
  let branches ← branches inner
  let otherwise ← wordsAndTerm inner "ELSE"
  expectKeyword "END"
  return .other ("CASE" ++ subject ++ String.join branches ++ otherwise ++ " END")

/-- What is written in parentheses after the name of a form. -/
def form (name : String) (inside : Parser String) : Parser Term :=
  return .other (name ++ inParentheses (← parenthesized inside))

/-- A conversion to a type or to a set of characters. -/
def convertForm (inner : Inner) (name : String) : Parser Term :=
  form name (do
    let value ← inner.termText
    if ← keyword "USING" then return value ++ " USING " ++ (← objectNameText)
    else
      expectSign ","
      let type ← dataTypeText inner
      if ← keywords ["CHARACTER", "SET"] then
        return value ++ ", " ++ type ++ " CHARACTER SET " ++ (← objectNameText)
      else return value ++ ", " ++ type)

/-- The format of a conversion, perhaps none. -/
def castFormat : Parser String := do
  if ← keyword "FORMAT" then
    let format ← literalText
    if ← keywords ["AT", "TIME", "ZONE"] then
      return " FORMAT " ++ format ++ " AT TIME ZONE " ++ (← literalText)
    else return " FORMAT " ++ format
  else return ""

/-- A conversion to a type. -/
def castForm (inner : Inner) (name : String) : Parser Term :=
  form name (do
    let value ← inner.termText
    expectKeyword "AS"
    let type ← dataTypeText inner
    return value ++ " AS " ++ type ++ (← castFormat))

/-- Whether a query has rows. -/
def existsForm (inner : Inner) (words : String) : Parser Term :=
  return .aboutSubquery (words ++ " " ++ inParentheses (← parenthesized inner.queryText))

/-- A part of a moment. -/
def extractForm (inner : Inner) : Parser Term :=
  form "EXTRACT" (do
    let part ← timePart
    if ← keyword "FROM" then return part ++ " FROM " ++ (← inner.termText)
    else if ← sign "," then
      if ← dialectIn [.ansi] then return part ++ ", " ++ (← inner.termText)
      else fail "Expected 'FROM' or ','"
    else fail "Expected 'FROM' or ','")

/-- A number rounded up or down. -/
def roundingForm (inner : Inner) (name : String) : Parser Term :=
  form name (do
    let value ← inner.termText
    if ← keyword "TO" then return value ++ " TO " ++ (← timePart)
    else if ← sign "," then
      match ← literal with
      | .number spelling long => return value ++ ", " ++ (Literal.number spelling long).spelling
      | _ => fail "Scale field can only be of number type"
    else return value)

/-- The place of a text in another one, or else an ordinary call. The first text ends where
`atMembership` says. -/
def positionForm (inner : Inner) (atMembership : Nat) (name : Ident) : Parser Term := do
  let place ← maybe (form "POSITION" (do
    let part ← inner.termAbove atMembership
    expectKeyword "IN"
    return part.text ++ " IN " ++ (← inner.termText)))
  match place with
  | some place => return place
  | none => callAfter inner [name] false

/-- A part of a text. -/
def substringForm (inner : Inner) : Parser Term :=
  form "SUBSTRING" (do
    let value ← inner.termText
    let listed ← sign ","
    let start ←
      if listed then pure (", " ++ (← inner.termText)) else wordsAndTerm inner "FROM"
    let counted ← if ← keyword "FOR" then pure true else sign ","
    let count ←
      if counted then pure ((if listed then ", " else " FOR ") ++ (← inner.termText))
      else pure ""
    return value ++ start ++ count)

/-- A text with a part of it replaced. -/
def overlayForm (inner : Inner) : Parser Term :=
  form "OVERLAY" (do
    let value ← inner.termText
    expectKeyword "PLACING"
    let replacement ← inner.termText
    expectKeyword "FROM"
    let start ← inner.termText
    let count ← wordsAndTerm inner "FOR"
    return value ++ " PLACING " ++ replacement ++ " FROM " ++ start ++ count)

/-- A text with characters taken off its ends. -/
def trimForm (inner : Inner) : Parser Term :=
  form "TRIM" (do
    let side ← oneOf ["BOTH", "LEADING", "TRAILING"]
    let sideText :=
      match side with
      | some word => word ++ " "
      | none => ""
    let first ← inner.termText
    if ← keyword "FROM" then return sideText ++ first ++ " FROM " ++ (← inner.termText)
    else if !(← sign ",") then return sideText ++ first
    else if ← dialectIn [.ansi] then return first ++ ", " ++ commas (← inner.termTexts)
    else return sideText ++ first)

/-- A list of values after its opening bracket. -/
def arrayForm (inner : Inner) (name : String) : Parser Term := do
  let items ← commaSeparatedUpTo "]" inner.termText
  expectSign "]"
  return .other (name ++ "[" ++ commas items ++ "]")

/-- How a text is searched for, perhaps not said. -/
def searchMode : Parser String := do
  if ← keywords ["IN", "NATURAL", "LANGUAGE", "MODE"] then
    if ← keywords ["WITH", "QUERY", "EXPANSION"] then
      return " IN NATURAL LANGUAGE MODE WITH QUERY EXPANSION"
    else return " IN NATURAL LANGUAGE MODE"
  else if ← keywords ["IN", "BOOLEAN", "MODE"] then return " IN BOOLEAN MODE"
  else if ← keywords ["WITH", "QUERY", "EXPANSION"] then return " WITH QUERY EXPANSION"
  else return ""

/-- A search for a text in columns. -/
def matchForm : Parser Term := do
  let columns ← columnNameTexts
  expectKeyword "AGAINST"
  let search ← parenthesized (do
    let value ← literalText
    return value ++ (← searchMode))
  return .other ("MATCH " ++ inParentheses (commas columns) ++ " AGAINST " ++
    inParentheses search)

/-- A member of a record, perhaps with a name where the types are not said. -/
def recordMember (inner : Inner) (typed : Bool) : Parser String := do
  let value ← inner.termText
  let t ← peek
  if ← keyword "AS" then
    if typed then failAt "Typed syntax does not allow AS" t.place
    else return value ++ " AS " ++ (← identifier).text
  else return value

/-- A record. -/
def recordForm (inner : Inner) (place : Location) : Parser Term := do
  let depth ← remaining
  let (types, closesOuter) ← recordMembers (typeWithin inner (depth + 1)) place
  if closesOuter then failAt "unmatched > in STRUCT literal" (← peek).place
  else
    let values ← parenthesized (commaSeparated (recordMember inner (!types.isEmpty)))
    return .other (recordText types ++ inParentheses (commas values))

/-- A key with its value. -/
def entry (key : Parser String) (inner : Inner) : Parser String := do
  let key ← key
  expectSign ":"
  return key ++ ": " ++ (← inner.termText)

/-- Entries between braces, after the opening one. -/
def entries (list : Parser (List String)) : Parser String := do
  let found ← list
  expectSign "\x7d"
  return "\x7b" ++ commas found ++ "\x7d"

/-- A dictionary, or a call, between braces, after the opening one. A dictionary is not empty. -/
def bracesForm (inner : Inner) (opening : Located) : Parser Term := do
  let call ← maybe (do
    expectKeyword "FN"
    callAfter inner (← objectName) true)
  match call with
  | some call =>
    expectSign "\x7d"
    return call
  | none =>
    if ← dialectIn [.ansi] then
      return .other (← entries (commaSeparated (entry (return (← identifier).text) inner)))
    else expected "an expression" opening

/-- A map between braces, perhaps an empty one. -/
def mapForm (inner : Inner) : Parser Term := do
  expectSign "\x7b"
  return .other ("MAP " ++
    (← entries (commaSeparatedUpTo "\x7d" (entry inner.termText inner))))

/-- A call that is made without parentheses. -/
def bareCall (name : Ident) : Term :=
  .call [name] { arguments := .absent } []

/-- A call for the present moment, where parentheses may be left out. -/
def momentForm (inner : Inner) (name : Ident) : Parser Term := do
  if ← sign "(" then
    let list ← argumentList inner
    return .call [name] { arguments := list.arguments } list.args
  else return bareCall name

/-- A list of the rows of a query. -/
def queryArrayForm (inner : Inner) (name : Ident) : Parser Term :=
  return .call [name] { arguments := .query (← parenthesized inner.queryText) } []

end SelectBinding.Sql.Grammar
