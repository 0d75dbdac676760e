import SelectBinding.Sql.Grammar.Tables

/-!
Statements that keep a database going, run what it holds, and merge tables. Nothing is kept of them.
-/

namespace SelectBinding.Sql.Grammar

open Sql.Parser

/-! ### Upkeep -/

/-- One more word on the tables that are written out; `none` at their end. A token that is no word
is read as well. -/
def flushedTables : Parser (Option Unit) := do
  if isFreeWord (← peek).token then
    let _ ← commaSeparated objectName
    return some ()
  else
    let t ← next
    match t.token with
    | .word _ _ =>
      if t.token.isKeyword "WITH" then discard (keywords ["READ", "LOCK"])
      else if t.token.isKeyword "FOR" then discard (keyword "EXPORT")
      else pure ()
      return some ()
    | _ => return none

/-- What is written out and emptied, after the keyword. -/
def flushing : Parser Unit := do
  unless ← dialectIn [.ansi, .mysql] do failAt "Unsupported statement FLUSH" (← peek).place
  let _ ← oneOf ["NO_WRITE_TO_BINLOG", "LOCAL"]
  let simple : List (List String) :=
    [["BINARY", "LOGS"], ["ENGINE", "LOGS"], ["ERROR", "LOGS"], ["GENERAL", "LOGS"], ["HOSTS"],
     ["PRIVILEGES"], ["OPTIMIZER_COSTS"], ["SLOW", "LOGS"], ["STATUS"], ["USER_RESOURCES"],
     ["LOGS"]]
  if ← simple.anyM keywords then return ()
  else if ← keywords ["RELAY", "LOGS"] then
    if ← keywords ["FOR", "CHANNEL"] then discard objectName
  else if ← keyword "TABLES" then repeatedly (fun _ => flushedTables) ()
  else
    expected ("BINARY LOGS, ENGINE LOGS, ERROR LOGS, GENERAL LOGS, HOSTS, LOGS, PRIVILEGES, " ++
      "OPTIMIZER_COSTS,RELAY LOGS [FOR CHANNEL channel], SLOW LOGS, STATUS, USER_RESOURCES")
      (← peek)

/-- One more word on what is found out about a table; `none` when none comes next. -/
def analysisClause (inner : Inner) : Parser (Option Unit) := do
  match ← oneOf ["PARTITION", "FOR", "CACHE", "NOSCAN", "COMPUTE"] with
  | none => return none
  | some "PARTITION" => some <$> termsInParentheses inner
  | some "FOR" =>
    expectKeyword "COLUMNS"
    let _ ← maybe (commaSeparated identifier)
    return some ()
  | some "CACHE" => some <$> expectKeyword "METADATA"
  | some "COMPUTE" => some <$> expectKeyword "STATISTICS"
  | some _ => return some ()

/-- What is found out about a table, after the keyword. -/
def analysis (inner : Inner) : Parser Unit := do
  expectKeyword "TABLE"
  let _ ← objectName
  repeatedly (fun _ => analysisClause inner) ()

/-- Tables that are emptied, after the keyword. -/
def truncation (inner : Inner) : Parser Unit := do
  let _ ← keyword "TABLE"
  let _ ← keyword "ONLY"
  let _ ← commaSeparated objectName
  if ← keyword "PARTITION" then termsInParentheses inner
  if ← dialectIn [.ansi, .postgres] then
    unless ← keywords ["RESTART", "IDENTITY"] do discard (keywords ["CONTINUE", "IDENTITY"])
    discard (oneOf ["CASCADE", "RESTRICT"])
  onCluster

/-- A table whose files are put in order, after the keyword. -/
def optimization (inner : Inner) : Parser Unit := do
  expectKeyword "TABLE"
  let _ ← objectName
  onCluster
  if ← keyword "PARTITION" then
    if ← keyword "ID" then discard identifier else discard inner.term
  let _ ← keyword "FINAL"
  if ← keyword "DEDUPLICATE" then discard (afterKeyword "BY" inner.term)

/-- A table whose parts are looked up again, after the keyword. -/
def repair : Parser Unit := do
  let _ ← keyword "REPAIR"
  expectKeyword "TABLE"
  let _ ← objectName
  discard (maybe (do
    let _ ← oneOf ["ADD", "DROP", "SYNC"]
    expectKeyword "PARTITIONS"))

/-- The query whose rows are kept at hand. -/
def cachedQuery (inner : Inner) : Parser Unit := do
  let t ← peek
  match t.token with
  | .word _ _ =>
    let _ ← keyword "AS"
    discard inner.query
  | _ => expected "a QUERY statement" t

/-- A table that is kept at hand, after the keyword. -/
def cachedTable (inner : Inner) : Parser Unit := do
  let _ ← objectName
  let _ ← optionsAfter inner "OPTIONS"
  unless (← peek).token == .finish do cachedQuery inner

/-- The keeping of a table at hand, after the keyword. A name may come before the table; where the
table is missing at the end of the statement, it is missing at the end of that name. -/
def caching (inner : Inner) : Parser Unit := do
  if ← keyword "TABLE" then cachedTable inner
  else
    let (_, last) ← withLast objectName
    if ← keyword "TABLE" then cachedTable inner
    else
      let t ← peek
      expected "a \x60TABLE\x60 keyword" (if t.token == .finish then last else t)

/-- What is thrown away, after the keyword. -/
def discarding : Parser Unit := do
  if (← oneOf ["ALL", "PLANS", "SEQUENCES", "TEMP", "TEMPORARY"]).isNone then
    expected "ALL, PLANS, SEQUENCES, TEMP or TEMPORARY after DISCARD" (← peek)

/-- What is stopped, after the keyword. -/
def killing : Parser Unit := do
  let kind ← oneOf ["CONNECTION", "QUERY", "MUTATION"]
  let _ ← literalNat
  if kind == some "MUTATION" then
    unless ← dialectIn [.ansi] do
      expected "Unsupported type for KILL, allowed: CONNECTION | QUERY" (← peek)

/-- A database in a file that is taken in, after the keyword. -/
def attachment (inner : Inner) : Parser Unit := do
  let _ ← keyword "DATABASE"
  let _ ← inner.term
  expectKeyword "AS"
  discard identifier

/-- A database in a file that is given up, after the keyword. -/
def detachment : Parser Unit := do
  let _ ← keyword "DATABASE"
  let _ ← keywords ["IF", "EXISTS"]
  discard identifier

/-- A table that is locked. -/
def lockedTable : Parser Unit := do
  let _ ← identifier
  let _ ← optionalAlias ["READ", "WRITE", "LOW_PRIORITY"]
  if ← keyword "READ" then discard (keyword "LOCAL")
  else if ← keyword "WRITE" then return ()
  else if ← keywords ["LOW_PRIORITY", "WRITE"] then return ()
  else expected "an lock type in LOCK TABLES" (← peek)

/-- A statement on the upkeep of a database, after its first word; `none` when none begins with
it. -/
def upkeep (inner : Inner) (word : String) : Parser (Option Unit) := do
  match word with
  | "FLUSH" => some <$> flushing
  | "KILL" => some <$> killing
  | "ANALYZE" => some <$> analysis inner
  | "TRUNCATE" => some <$> truncation inner
  | "OPTIMIZE" => some <$> optimization inner
  | "MSCK" => some <$> repair
  | "CACHE" => some <$> caching inner
  | "UNCACHE" =>
    expectKeyword "TABLE"
    let _ ← keywords ["IF", "EXISTS"]
    some <$> discard objectName
  | "DISCARD" => some <$> discarding
  | "ATTACH" => some <$> attachment inner
  | "DETACH" => some <$> detachment
  | _ => return none

/-! ### Calls and cursors -/

/-- A call, after the keyword. -/
def calling (inner : Inner) : Parser Unit := do
  let name ← objectName
  if ← peekSign "(" then discard (callAfter inner name false)

/-- A prepared statement that is run, after the keyword, with the values it is run with. -/
def execution (inner : Inner) : Parser Unit := do
  let _ ← objectName
  if ← peekSign "(" then
    discard (parenthesized (commaSeparatedUpTo ")" inner.term))
  else
    let t ← peek
    unless t.token == .finish || t.token == .sign ";" || t.token.isKeyword "USING" do
      discard (commaSeparated inner.term)
  discard (afterKeyword "USING" (commaSeparated inner.term))

/-- A cursor, after the keyword. -/
def cursor (inner : Inner) : Parser Unit := do
  let _ ← identifier
  let _ ← keyword "BINARY"
  let _ ← oneOf ["INSENSITIVE", "ASENSITIVE"]
  unless ← keyword "SCROLL" do discard (keywords ["NO", "SCROLL"])
  expectKeyword "CURSOR"
  if (← oneOf ["WITH", "WITHOUT"]).isSome then expectKeyword "HOLD"
  expectKeyword "FOR"
  discard inner.query

/-- Which rows are taken from a cursor. -/
def cursorMove : Parser Unit := do
  match ← oneOf ["NEXT", "PRIOR", "FIRST", "LAST", "ABSOLUTE", "RELATIVE", "FORWARD", "BACKWARD",
      "ALL"] with
  | none | some "ABSOLUTE" | some "RELATIVE" => discard numeral
  | some "FORWARD" | some "BACKWARD" =>
    unless ← keyword "ALL" do discard numeral
  | some _ => return ()

/-- Rows that are taken from a cursor, after the keyword. -/
def cursorFetch : Parser Unit := do
  cursorMove
  let _ ← expectOneOf ["FROM", "IN"]
  let _ ← identifier
  discard (afterKeyword "INTO" objectName)

/-- A statement about something that is run, after its first word; `none` when none begins with
it. -/
def running (inner : Inner) (word : String) : Parser (Option Unit) := do
  match word with
  | "CALL" => some <$> calling inner
  | "EXECUTE" | "EXEC" => some <$> execution inner
  | "DEALLOCATE" =>
    let _ ← keyword "PREPARE"
    some <$> discard identifier
  | "DECLARE" => some <$> cursor inner
  | "FETCH" => some <$> cursorFetch
  | "CLOSE" =>
    unless ← keyword "ALL" do discard identifier
    return some ()
  | "ASSERT" =>
    let _ ← inner.term
    some <$> discard (afterKeyword "AS" inner.term)
  | _ => return none

/-! ### Merging -/

/-- Which rows a case of a merge is about, after the keyword, and whether they are there already. -/
def mergeRows : Parser (String × Bool) := do
  let missing ← keyword "NOT"
  expectKeyword "MATCHED"
  if missing then
    if ← keywords ["BY", "SOURCE"] then return ("NOT MATCHED BY SOURCE", true)
    else if ← keywords ["BY", "TARGET"] then return ("NOT MATCHED BY TARGET", false)
    else return ("NOT MATCHED", false)
  else return ("MATCHED", true)

/-- A row that is added by a merge, after the keyword. -/
def mergedRow (inner : Inner) : Parser Unit := do
  let mysql ← dialectIn [.mysql]
  let _ ← if mysql then columnNamesOrNone else optionalColumnNames
  unless ← onlyIn [.ansi] (keyword "ROW") do
    expectKeyword "VALUES"
    discard (rows inner mysql)

/-- What is done with the rows of a case of a merge. Only rows that are there can be changed, and
only others can be added. -/
def mergeAction (inner : Inner) (rows : String) (there : Bool) : Parser Unit := do
  let refused (word : String) : Parser Unit :=
    fail (word ++ " is not allowed in a " ++ rows ++ " merge clause")
  match ← oneOf ["UPDATE", "INSERT", "DELETE"] with
  | some "UPDATE" =>
    if there then
      expectKeyword "SET"
      discard (assignments inner)
    else refused "UPDATE"
  | some "INSERT" => if there then refused "INSERT" else mergedRow inner
  | some _ => if there then return () else refused "DELETE"
  | none => fail "expected UPDATE, DELETE or INSERT in merge clause"

/-- A case of a merge; `none` at the end of the statement. -/
def mergeCase (inner : Inner) : Parser (Option Unit) := do
  let t ← peek
  if t.token == .finish || t.token == .sign ";" then return none
  else
    expectKeyword "WHEN"
    let (rows, there) ← mergeRows
    let _ ← afterKeyword "AND" inner.term
    expectKeyword "THEN"
    some <$> mergeAction inner rows there

/-- The merging of one table into another, after the keyword. -/
def merging (inner : Inner) : Parser Unit := do
  let factor : Parser FromFactor := do factorWithin inner ((← remaining) + 1)
  let _ ← keyword "INTO"
  let _ ← factor
  expectKeyword "USING"
  let _ ← factor
  expectKeyword "ON"
  let _ ← inner.term
  repeatedly (fun _ => mergeCase inner) ()

end SelectBinding.Sql.Grammar
