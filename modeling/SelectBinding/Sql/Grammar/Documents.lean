import SelectBinding.Sql.Grammar.DataType

/-!
Tables that are read out of documents. Only the text of them is kept.
-/

namespace SelectBinding.Sql.Grammar

open Sql.Parser

/-- What is shown where a document has no value. -/
def substitute : Parser (Option String) := do
  if ← keyword "NULL" then return some "NULL"
  else if ← keyword "ERROR" then return some "ERROR"
  else if ← keyword "DEFAULT" then return some ("DEFAULT " ++ (← literalText))
  else return none

/-- What is shown where a document has no value, and where it cannot be read. -/
abbrev Substitutes := Option String × Option String

/-- One more substitute; `none` when none comes next. -/
def nextSubstitute (found : Substitutes) : Parser (Option Substitutes) := do
  match ← substitute with
  | none => return none
  | some text =>
    expectKeyword "ON"
    if ← keyword "EMPTY" then return some (some text, found.2)
    else
      expectKeyword "ERROR"
      return some (found.1, some text)

/-- A column with a name, after that. -/
def valueColumn (inner : Inner) (name : String) : Parser String := do
  let type ← dataType inner
  let existence := if ← keyword "EXISTS" then " EXISTS" else ""
  expectKeyword "PATH"
  let path ← literalText
  let (empty, error) ← repeatedly nextSubstitute (none, none)
  let shown (text : Option String) (case : String) : String :=
    ((text.map fun text => " " ++ text ++ " ON " ++ case).getD "")
  return name ++ " " ++ type.text ++ existence ++ " PATH " ++ path ++ shown empty "EMPTY" ++
    shown error "ERROR"

/-- A column of a table that is read out of a document. Columns inside others are counted down by
`depth`. -/
def documentColumn (inner : Inner) : Nat → Parser String
  | 0 => failWith .tooDeep
  | depth + 1 => do
    if ← keyword "NESTED" then
      let _ ← keyword "PATH"
      let path ← literalText
      expectKeyword "COLUMNS"
      let columns ← parenthesized (commaSeparated (documentColumn inner depth))
      return "NESTED PATH " ++ path ++ " COLUMNS " ++ inParentheses (commas columns)
    else
      let name ← identifier
      if ← keyword "FOR" then
        expectKeyword "ORDINALITY"
        return name.text ++ " FOR ORDINALITY"
      else valueColumn inner name.text

/-- A table that is read out of a document, after the opening parenthesis. -/
def documentTable (inner : Inner) : Parser String := do
  let document ← inner.termText
  expectSign ","
  let path ← literalText
  expectKeyword "COLUMNS"
  let depth ← remaining
  let columns ← parenthesized (commaSeparated (documentColumn inner (depth + 1)))
  expectSign ")"
  return "JSON_TABLE" ++
    inParentheses (document ++ ", " ++ path ++ " COLUMNS" ++ inParentheses (commas columns))

/-- A column of a table that is opened in a document. -/
def openedColumn (inner : Inner) : Parser String := do
  let name ← identifier
  let type ← dataType inner
  let path ←
    match (← peek).token with
    | .string .plain value =>
      let _ ← next
      pure (" " ++ quoted '\'' value)
    | _ => pure ""
  if ← keyword "AS" then
    expectKeyword "JSON"
    return name.text ++ " " ++ type.text ++ path ++ " AS JSON"
  else return name.text ++ " " ++ type.text ++ path

/-- A table that is opened in a document, after the opening parenthesis. -/
def openedTable (inner : Inner) : Parser String := do
  let document ← inner.termText
  let path ← if ← sign "," then pure (", " ++ (← literalText)) else pure ""
  expectSign ")"
  let start := "OPENJSON" ++ inParentheses (document ++ path)
  if ← keyword "WITH" then
    return start ++ " WITH " ++
      inParentheses (commas (← parenthesized (commaSeparated (openedColumn inner))))
  else return start

end SelectBinding.Sql.Grammar
