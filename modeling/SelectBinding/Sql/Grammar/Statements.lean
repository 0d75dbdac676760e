import SelectBinding.Sql.Grammar.Alterations
import SelectBinding.Sql.Grammar.Commands
import SelectBinding.Sql.Grammar.Settings
import SelectBinding.Sql.Grammar.Transfers

/-!
Statements.

Queries are kept. Of other statements it only matters that they can be read. A statement may hold
other ones, and it is one of the levels that bound its depth.
-/

namespace SelectBinding.Sql.Grammar

open Sql.Parser

/-! ### Statements that hold other ones -/

/-- An option of a question about a statement, perhaps with a value. -/
def explanationOption (inner : Inner) : Parser Unit := do
  let _ ← identifier
  unless (← peekSign ",") || (← peekSign ")") do discard inner.term

/-- How a statement is explained, after the first word. -/
def explanationMode (inner : Inner) (word : String) : Parser Unit := do
  let optionsAhead ←
    if word == "EXPLAIN" then onlyIn [.ansi, .postgres] (peekSign "(") else pure false
  if optionsAhead then
    discard (parenthesized (commaSeparated (explanationOption inner)))
  else
    unless ← keywords ["QUERY", "PLAN"] do
      let _ ← keyword "ANALYZE"
      let _ ← keyword "VERBOSE"
      if ← keyword "FORMAT" then
        if (← oneOf ["TEXT", "JSON", "GRAPHVIZ"]).isNone then expected "fileformat" (← next)

/-- A question about a statement or a table, after the first word. -/
def explanation (inner : Inner) (nested : Parser StatementTree) (word : String) :
    Parser Unit := do
  explanationMode inner word
  match ← maybe nested with
  | some .explanation => fail "Explain must be root of the plan"
  | some _ => return ()
  | none =>
    let _ ← oneOf ["EXTENDED", "FORMATTED"]
    discard objectName

/-- A statement that is prepared for later, after the keyword. -/
def preparation (inner : Inner) (nested : Parser StatementTree) : Parser Unit := do
  let _ ← identifier
  if ← peekSign "(" then discard (parenthesized (commaSeparated (dataType inner)))
  expectKeyword "AS"
  discard nested

/-! ### Lists of statements -/

/-- What was read of a list of statements: the last one first, and whether a semicolon must come
before the next one. -/
structure Progress where
  found : List StatementTree := []
  needsSemicolon : Bool := false

/-- One more statement; `none` at the end. Where a semicolon is missing, the word `END` is the
end. -/
def nextStatement (nested : Parser StatementTree) (progress : Progress) :
    Parser (Option Progress) := do
  let semicolons ← many (sign ";") (return ())
  let needsSemicolon := progress.needsSemicolon && semicolons.isEmpty
  let t ← peek
  if t.token == .finish then return none
  else if needsSemicolon && t.token.isKeyword "END" then return none
  else if needsSemicolon then expected "end of statement" t
  else return some { found := (← nested) :: progress.found, needsSemicolon := true }

/-- Statements with semicolons between them. -/
def statementList (nested : Parser StatementTree) : Parser (List StatementTree) := do
  let progress ← repeatedly (nextStatement nested) {}
  return progress.found.reverse

/-! ### Statements -/

/-- A statement that changes rows or definitions, after its first word; `none` when none begins with
it. The parser of the statements in it is given. -/
def change (inner : Inner) (nested : Parser StatementTree) (word : String) :
    Parser (Option Unit) := do
  match word with
  | "INSERT" => some <$> discard (insertion inner)
  | "REPLACE" =>
    if ← dialectIn [.ansi, .mysql] then some <$> discard (insertion inner)
    else failAt "Unsupported statement REPLACE" (← peek).place
  | "UPDATE" => some <$> discard (update inner)
  | "DELETE" => some <$> deletion inner
  | "MERGE" => some <$> merging inner
  | "CREATE" => some <$> definition inner (discard (statementList nested))
  | "DROP" => some <$> removal inner
  | "ALTER" => some <$> alteration inner
  | "GRANT" => some <$> granting
  | "REVOKE" => some <$> revoking
  | _ => return none

/-- A statement about settings, or one that moves rows and messages, after its first word; `none`
when none begins with it. -/
def service (inner : Inner) (word : String) : Parser (Option Unit) := do
  match word with
  | "SET" => some <$> variableStatement inner
  | "SHOW" => some <$> showing inner
  | "USE" => some <$> discard objectName
  | "PRAGMA" => some <$> switch
  | "COMMENT" => some <$> remark
  | "COPY" => some <$> copying inner
  | "UNLOAD" => some <$> unloading inner
  | "LOAD" => some <$> loading
  | "INSTALL" => some <$> discard identifier
  | "LISTEN" => some <$> discard identifier
  | "UNLISTEN" => some <$> silencing
  | "NOTIFY" => some <$> message
  | _ => return none

/-- The dialects that have the statements with a first word that not all of them have. -/
def dialectsOf (word : String) : List Dialect :=
  match word with
  | "DETACH" | "INSTALL" | "OPTIMIZE" => [.ansi]
  | "LISTEN" | "UNLISTEN" | "NOTIFY" => [.postgres]
  | "COMMENT" => [.ansi, .postgres]
  | _ => [.ansi, .mysql, .postgres, .sqlite]

/-- A statement that is neither a query nor an explanation, after its first word; `none` when none
begins with it. The parser of the statements in it is given. -/
def otherStatement (inner : Inner) (nested : Parser StatementTree) (word : String) :
    Parser (Option Unit) := do
  unless ← dialectIn (dialectsOf word) do return none
  if word == "PREPARE" then some <$> preparation inner nested
  else
    let kinds : List (Parser (Option Unit)) :=
      [change inner nested word, transaction word, service inner word, upkeep inner word,
       running inner word]
    kinds.findSomeM? id

/-- A statement that only one of the dialects has; `none` when none comes next. -/
def ownStatement (inner : Inner) : Parser (Option Unit) := do
  match ← dialect with
  | .mysql =>
    if ← keywords ["LOCK", "TABLES"] then some <$> discard (commaSeparated lockedTable)
    else if ← keywords ["UNLOCK", "TABLES"] then return some ()
    else return none
  | .sqlite =>
    if ← peekKeyword "REPLACE" then some <$> discard (insertion inner) else return none
  | .postgres =>
    match ← enumerationName with
    | some () => some <$> enumeration
    | none => return none
  | _ => return none

/-- A statement that every dialect may have. The levels inside it and the parser of the statements
in it are given. -/
def sharedStatement (inner : Inner) (nested : Parser StatementTree) : Parser StatementTree := do
  let t ← peek
  let word := (t.token.keyword?).getD ""
  if ["SELECT", "WITH", "VALUES"].contains word || t.token == .sign "(" then
    return .query (← inner.query)
  else
    let _ ← next
    if ["EXPLAIN", "DESCRIBE", "DESC"].contains word then
      explanation inner nested word
      return .explanation
    else
      match ← otherStatement inner nested word with
      | some () => return .other
      | none => expected "an SQL statement" t

/-- A statement that is so many levels deep at most. -/
def statement : Nat → Parser StatementTree
  | 0 => failWith .tooDeep
  | depth + 1 => do
    let inner := level depth
    match ← ownStatement inner with
    | some () => return .other
    | none => sharedStatement inner (statement depth)

/-- How many levels a statement may have. -/
def depthLimit : Nat := 50

/-- All statements of a text. -/
def statements : Parser (List StatementTree) :=
  statementList (statement depthLimit)

end SelectBinding.Sql.Grammar
