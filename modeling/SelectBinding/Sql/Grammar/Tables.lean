import SelectBinding.Sql.Grammar.DataType
import SelectBinding.Sql.Grammar.Queries

/-!
Definitions of tables. Nothing is kept of them.
-/

namespace SelectBinding.Sql.Grammar

open Sql.Parser

/-! ### Rules about the rows of a table -/

/-- Terms in parentheses. -/
def termsInParentheses (inner : Inner) : Parser Unit :=
  discard (parenthesized inner.termTexts)

/-- Whether rows without values count as equal, perhaps not said. -/
def nullsAsEqual : Parser Unit := do
  if ← keyword "NULLS" then
    let _ ← keyword "NOT"
    expectKeyword "DISTINCT"

/-- The kind of an index, if the keyword for it is there; whether it is. -/
def indexKind : Parser Bool := do
  if ← keyword "USING" then
    match ← oneOf ["BTREE", "HASH"] with
    | some _ => return true
    | none => expected "index type \x7bBTREE | HASH\x7d" (← peek)
  else return false

/-- An option of an index; `none` when none comes next. -/
def indexOption : Parser (Option Unit) := do
  if ← indexKind then return some ()
  else if ← keyword "COMMENT" then
    let _ ← literalString
    return some ()
  else return none

/-- The columns of an index, after its name. -/
def indexColumns : Parser Unit := do
  let _ ← indexKind
  discard columnNames

/-- The index of a rule about the rows of a table. -/
def ruleIndex : Parser Unit := do
  let _ ← maybe identifier
  indexColumns
  repeatedly (fun _ => indexOption) ()
  discard checking

/-- The rule that no two rows agree, after the keyword. -/
def uniqueRule : Parser Unit := do
  let shown ← oneOf ["KEY", "INDEX"]
  if shown.isSome && !(← dialectIn [.ansi, .mysql]) then
    expected "\x60index_name\x60 or \x60(column_name [, ...])\x60" (← peek)
  else
    nullsAsEqual
    ruleIndex

/-- The rule that rows agree with those of another table, after the keyword. -/
def foreignRule : Parser Unit := do
  expectKeyword "KEY"
  let _ ← columnNames
  expectKeyword "REFERENCES"
  let _ ← objectName
  let _ ← columnNames
  discard referenceRules

/-- An index among the columns of a table, after the keyword. -/
def plainIndex : Parser Unit := do
  unless ← peekKeyword "USING" do discard (maybe identifier)
  indexColumns

/-- An index of texts or places, after the keyword. -/
def textIndex : Parser Unit := do
  let _ ← oneOf ["KEY", "INDEX"]
  let _ ← maybe identifier
  discard columnNames

/-- A rule about the rows of a table, after its name; `none` when none comes next. -/
def ruleAfter (inner : Inner) (name : Option Ident) : Parser (Option Unit) := do
  let t ← peek
  let word := (t.token.keyword?).getD ""
  let indexed ← dialectIn [.ansi, .mysql]
  let rest (p : Parser Unit) : Parser (Option Unit) := do
    let _ ← next
    some <$> p
  match word with
  | "UNIQUE" => rest uniqueRule
  | "PRIMARY" => rest (do
    expectKeyword "KEY"
    ruleIndex)
  | "FOREIGN" => rest foreignRule
  | "CHECK" => rest (discard (parenthesized inner.term))
  | "INDEX" | "KEY" => if indexed && name.isNone then rest plainIndex else return none
  | "FULLTEXT" | "SPATIAL" =>
    match name with
    | none => if indexed then rest textIndex else return none
    | some name =>
      if indexed then
        failWith
          (.unexpected "FULLTEXT or SPATIAL option without constraint name" name.text t.place)
      else return none
  | _ => return none

/-- A rule about the rows of a table; `none` when none comes next. -/
def tableRule (inner : Inner) : Parser (Option Unit) := do
  let name ← afterKeyword "CONSTRAINT" identifier
  match ← ruleAfter inner name with
  | some () => return some ()
  | none =>
    if name.isSome then expected "PRIMARY, UNIQUE, FOREIGN, or CHECK" (← next) else return none

/-! ### Columns -/

/-- A column of a table. -/
def tableColumn (inner : Inner) : Parser Unit :=
  discard (columnDefinition inner (dataTypeText inner))

/-- A column of a table or a rule about its rows. -/
def tableElement (inner : Inner) : Parser Unit := do
  match ← tableRule inner with
  | some () => return ()
  | none =>
    match (← peek).token with
    | .word _ _ => tableColumn inner
    | _ => expected "column name or constraint definition" (← peek)

/-- The columns of a table and the rules about its rows, perhaps not said. -/
def tableElements (inner : Inner) : Parser Unit := do
  if ← sign "(" then
    unless ← sign ")" do
      let _ ← commaSeparated (tableElement inner)
      unless ← sign ")" do expected "',' or ')' after column definition" (← peek)

/-! ### How rows are stored -/

/-- The words for a sign between rows or inside them, after the first of them. -/
def delimiterWords : List (String × List String) :=
  [("FIELDS", ["TERMINATED", "BY"]), ("COLLECTION", ["ITEMS", "TERMINATED", "BY"]),
   ("MAP", ["KEYS", "TERMINATED", "BY"]), ("LINES", ["TERMINATED", "BY"]),
   ("NULL", ["DEFINED", "AS"])]

/-- A sign between rows or inside them; `none` when none comes next, or its first word only. -/
def delimiter : Parser (Option Unit) := do
  match ← oneOf (delimiterWords.map Prod.fst) with
  | none => return none
  | some word =>
    if ← keywords ((delimiterWords.lookup word).getD []) then
      let _ ← identifier
      if word == "FIELDS" then
        if ← keywords ["ESCAPED", "BY"] then discard identifier
      return some ()
    else return none

/-- How a row is written, after the keyword. -/
def rowFormat : Parser Unit := do
  expectKeyword "FORMAT"
  if ← keyword "SERDE" then discard literalString
  else
    let _ ← keyword "DELIMITED"
    let _ ← repeatedly (fun _ => delimiter) ()

/-- What files rows are stored in, after the keyword. -/
def storedAs (inner : Inner) : Parser Unit := do
  expectKeyword "AS"
  if ← keyword "INPUTFORMAT" then
    let _ ← inner.term
    expectKeyword "OUTPUTFORMAT"
    discard inner.term
  else discard fileFormat

/-- One more statement on how rows are stored; `none` when none comes next. -/
def storageClause (inner : Inner) : Parser (Option Unit) := do
  if ← keyword "ROW" then some <$> rowFormat
  else if ← keyword "STORED" then some <$> storedAs inner
  else if ← keyword "LOCATION" then
    let _ ← literalString
    return some ()
  else if ← keywords ["WITH", "SERDEPROPERTIES"] then
    let _ ← parenthesized (commaSeparated (option inner))
    return some ()
  else return none

/-- How rows are stored, as far as it is said. -/
def storage (inner : Inner) : Parser Unit :=
  repeatedly (fun _ => storageClause inner) ()

/-- The columns that rows are divided by, perhaps not said. -/
def partitionColumns (inner : Inner) : Parser Unit := do
  if ← keywords ["PARTITIONED", "BY"] then
    discard (parenthesized (commaSeparated (tableColumn inner)))

/-- The buckets that rows are put into, perhaps not said. -/
def buckets (inner : Inner) : Parser Unit := do
  if ← onlyIn [.ansi] (keywords ["CLUSTERED", "BY"]) then
    let _ ← columnNames
    if ← keywords ["SORTED", "BY"] then discard (parenthesized (sortTerms inner))
    expectKeyword "INTO"
    let _ ← numeral
    expectKeyword "BUCKETS"

/-! ### Options of tables -/

/-- A word after the sign of equality. -/
def wordAfterSign : Parser Unit := do
  expectSign "="
  let t ← next
  match t.token with
  | .word _ _ => return ()
  | _ => expected "identifier" t

/-- The engine of a table, perhaps not said. -/
def engine : Parser Unit := do
  if ← keyword "ENGINE" then
    wordAfterSign
    discard optionalColumnNames

/-- The first number that is given out, perhaps not said. -/
def firstNumber : Parser Unit := do
  if ← keyword "AUTO_INCREMENT" then
    let _ ← sign "="
    discard (nat 32)

/-- The order and the division of rows, as far as they are said. -/
def arrangement (inner : Inner) : Parser Unit := do
  if ← onlyIn [.ansi] (keywords ["PRIMARY", "KEY"]) then discard inner.term
  if ← keywords ["ORDER", "BY"] then
    if ← sign "(" then
      let _ ← commaSeparatedUpTo ")" inner.term
      expectSign ")"
    else discard inner.term
  if ← onlyIn [.ansi, .postgres] (keywords ["PARTITION", "BY"]) then discard inner.term
  if ← dialectIn [.ansi] then
    if ← keywords ["CLUSTER", "BY"] then discard (commaSeparated identifier)
    discard (optionsAfter inner "OPTIONS")

/-- The character set and the collation of texts, as far as they are said. -/
def textRules : Parser Unit := do
  if ← keywords ["DEFAULT", "CHARSET"] then wordAfterSign
  if ← keyword "COLLATE" then wordAfterSign

/-- What happens to rows at the end of a transaction, perhaps not said. -/
def onCommit : Parser Unit := do
  unless ← keywords ["ON", "COMMIT", "DELETE", "ROWS"] do
    unless ← keywords ["ON", "COMMIT", "PRESERVE", "ROWS"] do
      discard (keywords ["ON", "COMMIT", "DROP"])

/-- A remark on a table, perhaps none. -/
def tableRemark : Parser Unit := do
  if ← keyword "COMMENT" then
    let _ ← sign "="
    let t ← next
    match t.token with
    | .string .plain _ => return ()
    | _ => expected "comment" t

/-- The query that fills a table, perhaps none. -/
def fillingQuery (inner : Inner) : Parser Unit := do
  if ← keyword "AS" then discard inner.query
  else if ← onlyIn [.mysql] (peekKeyword "SELECT") then discard inner.query
  else return ()

/-! ### Tables -/

/-- The machines that a table is kept on, perhaps not said. -/
def onCluster : Parser Unit := do
  if ← keywords ["ON", "CLUSTER"] then discard identifier

/-- The table that a table is made after, perhaps not said. Its name is read as far as it is
one. -/
def model : Parser Unit := do
  if (← oneOf ["LIKE", "ILIKE"]).isSome then discard (regardless objectName)
  if ← keyword "CLONE" then discard (regardless objectName)

/-- A table, after the keyword. -/
def tableDefinition (inner : Inner) : Parser Unit := do
  let _ ← keywords ["IF", "NOT", "EXISTS"]
  let _ ← objectName
  onCluster
  model
  tableElements inner
  let _ ← keywords ["WITHOUT", "ROWID"]
  partitionColumns inner
  buckets inner
  storage inner
  let _ ← optionsAfter inner "WITH"
  let _ ← optionsAfter inner "TBLPROPERTIES"
  engine
  firstNumber
  arrangement inner
  textRules
  onCommit
  let _ ← keyword "STRICT"
  tableRemark
  fillingQuery inner

/-- A table whose rows are kept elsewhere, after the keyword. -/
def externalTableDefinition (inner : Inner) : Parser Unit := do
  expectKeyword "TABLE"
  let _ ← keywords ["IF", "NOT", "EXISTS"]
  let _ ← objectName
  tableElements inner
  partitionColumns inner
  storage inner
  discard (optionsAfter inner "TBLPROPERTIES")

end SelectBinding.Sql.Grammar
