import SelectBinding.Sql.Grammar.Selects

/-!
Statements that change the rows of tables.
-/

namespace SelectBinding.Sql.Grammar

open Sql.Parser

/-- A column, or columns in parentheses, with the value they get. -/
def assignment (inner : Inner) : Parser String := do
  let target ←
    if ← peekSign "(" then
      pure (inParentheses (commas (← parenthesized (commaSeparated objectNameText))))
    else objectNameText
  expectSign "="
  return target ++ " = " ++ (← inner.termText)

/-- Columns with the values they get. -/
def assignments (inner : Inner) : Parser String :=
  return commas (← commaSeparated (assignment inner))

/-- The items that a statement answers with, after the keyword. -/
def returned (inner : Inner) : Parser String :=
  return commas ((← commaSeparated (selectItem inner)).map SelectItem.text)

/-- The condition on the rows that are changed and the items of them that are the answer, as far
as they are said. -/
def conditionAndAnswer (inner : Inner) : Parser String := do
  let condition ← afterKeyword "WHERE" inner.termText
  let answer ← afterKeyword "RETURNING" (returned inner)
  return clause "WHERE " condition ++ clause "RETURNING " answer

/-- The ways to go on after a conflict. -/
def conflictWords : List String :=
  ["REPLACE", "ROLLBACK", "ABORT", "FAIL", "IGNORE"]

/-- What is done about a conflict, perhaps not said. -/
def conflictWord : Parser (Option String) := do
  if (← peekKeyword "OR") && (← peekAt 1).token.isOneOf conflictWords then
    let _ ← next
    oneOf conflictWords
  else oneOf ["REPLACE"]

/-- The columns that a conflict is about, perhaps not said. -/
def conflictTarget : Parser String := do
  if ← keywords ["ON", "CONSTRAINT"] then return " ON CONSTRAINT " ++ (← objectNameText)
  else if ← peekSign "(" then return inParentheses (commas (← columnNameTexts))
  else return ""

/-- What is done about rows that are there already, perhaps not said. -/
def onConflict (inner : Inner) : Parser String := do
  if ← keyword "ON" then
    if ← keyword "CONFLICT" then
      let target ← conflictTarget
      expectKeyword "DO"
      if ← keyword "NOTHING" then return " ON CONFLICT" ++ target ++ " DO NOTHING"
      else
        expectKeywords ["UPDATE", "SET"]
        let changes ← assignments inner
        let condition ← afterKeyword "WHERE" inner.termText
        return " ON CONFLICT" ++ target ++ " DO UPDATE SET " ++ changes ++ clause "WHERE " condition
    else
      expectKeywords ["DUPLICATE", "KEY", "UPDATE"]
      return " ON DUPLICATE KEY UPDATE " ++ (← assignments inner)
  else return ""

/-- The columns that rows are added for, and the part of the table they are added to, as far as
they are said. -/
def addedColumns (inner : Inner) : Parser String := do
  let columns ← if ← dialectIn [.mysql] then columnNamesOrNone else optionalColumnNames
  let shown := if columns.isEmpty then "" else inParentheses (commas columns) ++ " "
  if ← keyword "PARTITION" then
    return shown ++ "PARTITION " ++ inParentheses (commas (← parenthesized inner.termTexts)) ++ " "
  else return shown

/-- The rows that are added, with the columns they are for. -/
def addedRows (inner : Inner) : Parser String := do
  if ← keywords ["DEFAULT", "VALUES"] then return "DEFAULT VALUES"
  else
    let queryInParentheses := (← peekSign "(") && (← peekAt 1).token.isKeyword "SELECT"
    let columns ← if queryInParentheses then pure "" else addedColumns inner
    return columns ++ (← inner.queryText)

/-- The name that the added rows get, perhaps none. -/
def addedAlias : Parser String := do
  if ← onlyIn [.ansi, .mysql] (keyword "AS") then
    let name ← objectNameText
    let columns ← optionalColumnNames
    return " AS " ++ name ++
      if columns.isEmpty then "" else " " ++ inParentheses (commas columns)
  else return ""

/-- A format of files. -/
def fileFormat : Parser String := do
  match ← oneOf ["AVRO", "JSONFILE", "ORC", "PARQUET", "RCFILE", "SEQUENCEFILE", "TEXTFILE"] with
  | some word => return word
  | none => expected "fileformat" (← next)

/-- The writing of rows into a directory, after the keyword, `start` being what comes before it. -/
def directory (inner : Inner) (start : String) : Parser String := do
  let path ← literalString
  let format ←
    if ← keywords ["STORED", "AS"] then pure (" STORED AS " ++ (← fileFormat)) else pure ""
  return start ++ " DIRECTORY '" ++ path ++ "'" ++ format ++ " " ++ (← inner.queryText)

/-- The addition of rows to a table, `start` being what comes before its name. -/
def additionTo (inner : Inner) (start : String) : Parser String := do
  let name ← objectNameText
  let aliasName ← if ← dialectIn [.postgres] then afterKeyword "AS" identifier else pure none
  let added ← addedRows inner
  let rowAlias ← addedAlias
  let conflictRule ← onConflict inner
  let answer ← afterKeyword "RETURNING" (returned inner)
  return start ++ " " ++ name ++ clause "AS " (aliasName.map Ident.text) ++ " " ++ added ++
    rowAlias ++ conflictRule ++ clause "RETURNING " answer

/-- A keyword after a blank, if it is there. -/
def shownKeyword (word : String) : Parser String := do
  if ← keyword word then return " " ++ word else return ""

/-- The addition of rows, after the keyword. -/
def insertion (inner : Inner) : Parser String := do
  let conflict ← conflictWord
  let special ← dialectIn [.ansi, .mysql]
  let priority ←
    if special then oneOf ["LOW_PRIORITY", "DELAYED", "HIGH_PRIORITY"] else pure none
  let ignore ← if special then shownKeyword "IGNORE" else pure ""
  let overwrite ← shownKeyword "OVERWRITE"
  let into ← shownKeyword "INTO"
  let here ← shownKeyword "LOCAL"
  if ← keyword "DIRECTORY" then directory inner ("INSERT" ++ overwrite ++ here)
  else
    let table ← shownKeyword "TABLE"
    match conflict with
    | some word => additionTo inner ("INSERT OR " ++ word ++ " INTO")
    | none =>
      additionTo inner ("INSERT" ++ clause "" priority ++ ignore ++ overwrite ++ into ++ table)

/-- The change of rows, after the keyword. -/
def update (inner : Inner) : Parser String := do
  let conflict ← conflictWord
  let table ← fromItem inner
  expectKeyword "SET"
  let changes ← assignments inner
  let source ←
    if ← keyword "FROM" then
      if ← dialectIn [.ansi, .postgres, .sqlite] then
        pure (" FROM " ++ (← fromItem inner).text)
      else pure ""
    else pure ""
  return "UPDATE" ++ clause "OR " conflict ++ " " ++ table.text ++ " SET " ++ changes ++ source ++
    (← conditionAndAnswer inner)

/-- The removal of rows, after the keyword. -/
def deletion (inner : Inner) : Parser Unit := do
  unless ← keyword "FROM" do
    unless ← dialectIn [.ansi] do
      let _ ← commaSeparated objectName
      expectKeyword "FROM"
  let _ ← commaSeparated (fromItem inner)
  let _ ← afterKeyword "USING" (commaSeparated (fromItem inner))
  let _ ← conditionAndAnswer inner
  if ← keywords ["ORDER", "BY"] then
    let _ ← sortTerms inner
  if ← keyword "LIMIT" then
    unless ← keyword "ALL" do
      let _ ← inner.term

end SelectBinding.Sql.Grammar
