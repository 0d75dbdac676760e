import SelectBinding.Sql.Grammar.Changes

/-!
Queries: selects, what is combined of them, and the clauses around them.
-/

namespace SelectBinding.Sql.Grammar

open Sql.Parser

/-! ### Clauses -/

/-- A query with a name. -/
def namedQuery (inner : Inner) : Parser String := do
  let name ← identifier
  let columns ← if ← peekKeyword "AS" then pure [] else aliasColumns inner
  expectKeyword "AS"
  let kept ←
    if ← onlyIn [.postgres] (keyword "MATERIALIZED") then pure "MATERIALIZED "
    else if ← onlyIn [.postgres] (keywords ["NOT", "MATERIALIZED"]) then pure "NOT MATERIALIZED "
    else pure ""
  let query ← parenthesized inner.queryText
  let shown := (TableAlias.mk name columns).text ++ " AS " ++ kept ++ inParentheses query
  match ← afterKeyword "FROM" identifier with
  | some source => return shown ++ " FROM " ++ source.text
  | none => return shown

/-- The queries with names before a query, perhaps none. -/
def withTables (inner : Inner) : Parser (Option String) := do
  if ← keyword "WITH" then
    let recursion := if ← keyword "RECURSIVE" then "RECURSIVE " else ""
    return some ("WITH " ++ recursion ++ commas (← commaSeparated (namedQuery inner)))
  else return none

/-- How many rows are left out, after the keyword. -/
def offset (inner : Inner) : Parser String := do
  let value ← inner.termText
  match ← oneOf ["ROW", "ROWS"] with
  | some word => return "OFFSET " ++ value ++ " " ++ word
  | none => return "OFFSET " ++ value

/-- How many rows are taken and how many are left out before them, as far as it was said. -/
abbrev Slice := Option String × Option String

/-- How many rows are taken, if that was not said before. -/
def limitIn (inner : Inner) (slice : Slice) : Parser Slice := do
  if slice.1.isNone then
    if ← keyword "LIMIT" then
      if ← keyword "ALL" then return slice else return (some (← inner.termText), slice.2)
    else return slice
  else return slice

/-- How many rows are left out, if that was not said before. -/
def offsetIn (inner : Inner) (slice : Slice) : Parser Slice := do
  if slice.2.isNone then
    match ← afterKeyword "OFFSET" (offset inner) with
    | some text => return (slice.1, some text)
    | none => return slice
  else return slice

/-- How many rows are taken after a comma, the number before it being that of rows left out. -/
def limitAfterComma (inner : Inner) (slice : Slice) : Parser Slice := do
  match slice with
  | (some left, none) =>
    if ← onlyIn [.ansi, .sqlite, .mysql] (sign ",") then
      return (some (← inner.termText), some ("OFFSET " ++ left))
    else return slice
  | slice => return slice

/-- How many rows are taken and left out. Either may come first. -/
def slice (inner : Inner) : Parser Slice := do
  let once (slice : Slice) : Parser Slice := do
    limitAfterComma inner (← offsetIn inner (← limitIn inner slice))
  once (← once (none, none))

/-- How many rows are fetched, after the keyword. -/
def fetch : Parser String := do
  let _ ← expectOneOf ["FIRST", "NEXT"]
  let quantity ←
    match ← oneOf ["ROW", "ROWS"] with
    | some _ => pure ""
    | none => do
      let n ← literalText
      let percent := if ← keyword "PERCENT" then " PERCENT" else ""
      let _ ← expectOneOf ["ROW", "ROWS"]
      pure (" " ++ n ++ percent)
  if ← keyword "ONLY" then return "FETCH FIRST" ++ quantity ++ " ROWS ONLY"
  else if ← keywords ["WITH", "TIES"] then return "FETCH FIRST" ++ quantity ++ " ROWS WITH TIES"
  else expected "one of ONLY or WITH TIES" (← peek)

/-- How rows are locked, after the keyword. -/
def lock : Parser String := do
  let kind ← expectOneOf ["UPDATE", "SHARE"]
  let table ←
    match ← afterKeyword "OF" objectNameText with
    | some name => pure (" OF " ++ name)
    | none => pure ""
  let waiting ←
    if ← keyword "NOWAIT" then pure " NOWAIT"
    else if ← keywords ["SKIP", "LOCKED"] then pure " SKIP LOCKED"
    else pure ""
  return "FOR " ++ kind ++ table ++ waiting

/-- A name in parentheses after a keyword. -/
def namedOption (word : String) : Parser String := do
  return word ++ "('" ++ (← parenthesized literalString) ++ "')"

/-- One of the words that may be said of a document after a comma, or the name of its root. A
comma may stand without any. -/
def documentOption (words : List String) : Parser String := do
  match ← oneOf ("ROOT" :: words) with
  | some "ROOT" => namedOption "ROOT"
  | some "BINARY" => do
    expectKeyword "BASE64"
    return "BINARY BASE64"
  | some word => return word
  | none => return ""

/-- What is said of a document after commas. It is shown in a fixed order, the words before the
root, the last root that was named, and the words after it, each once. -/
def documentOptions (before after : List String) : Parser String := do
  let words := (before ++ after).map fun word => if word == "BINARY BASE64" then "BINARY" else word
  let said ← many (sign ",") (documentOption words)
  let root := (said.filter (·.startsWith "ROOT(")).getLast?
  let shown := before.filter said.contains ++ root.toList ++ after.filter said.contains
  return String.join (shown.map (", " ++ ·))

/-- The document that rows are made into, after the keyword; `none` when rows are locked
instead. -/
def document : Parser (Option String) := do
  if ← keyword "XML" then
    match ← oneOf ["RAW", "AUTO", "EXPLICIT", "PATH"] with
    | none => fail "Expected FOR XML [RAW | AUTO | EXPLICIT | PATH ]"
    | some word =>
      let named := word == "RAW" || word == "PATH"
      let kind ← if named && (← peekSign "(") then namedOption word else pure word
      return some ("FOR XML " ++ kind ++
        (← documentOptions ["BINARY BASE64", "TYPE"] ["ELEMENTS"]))
  else if ← keyword "JSON" then
    match ← oneOf ["AUTO", "PATH"] with
    | none => fail "Expected FOR JSON [AUTO | PATH ]"
    | some word =>
      return some ("FOR JSON " ++ word ++
        (← documentOptions [] ["INCLUDE_NULL_VALUES", "WITHOUT_ARRAY_WRAPPER"]))
  else if ← keyword "BROWSE" then return some "FOR BROWSE"
  else return none

/-- Locks, the last one first, and the document that ends their list. -/
def forClauses : Parser (List String × Option String) := do
  let (locks, document) ← repeatedly (fun (locks, found) => do
    if found.isSome then return none
    else if ← keyword "FOR" then
      match ← document with
      | some text => return some (locks, some text)
      | none => return some ((← lock) :: locks, none)
    else return none) (([] : List String), (none : Option String))
  return (locks.reverse, document)

/-- The format of the answer, perhaps not said. -/
def format : Parser (Option String) := do
  if ← onlyIn [.ansi] (keyword "FORMAT") then
    if ← keyword "NULL" then return some "FORMAT NULL"
    else return some ("FORMAT " ++ (← identifier).text)
  else return none

/-! ### What a query is about -/

/-- The name of a table after `TABLE`. Three tokens are read in any case. -/
def tableOnly : Parser String := do
  let first ← next
  let second ← next
  let third ← next
  match first.token with
  | .word value _ =>
    if second.token == .sign "." then
      match third.token with
      | .word table _ => return "TABLE " ++ value ++ "." ++ table
      | _ => expected "Table name" third
    else return "TABLE " ++ value
  | _ => expected (if second.token == .sign "." then "Schema name" else "Table name") first

/-- The words that combine two queries, and how tightly they bind. -/
def setOperators : List (String × Nat) :=
  [("UNION", 10), ("EXCEPT", 10), ("INTERSECT", 20)]

/-- What is done with equal rows of two queries. -/
def setQuantifier : Parser String := do
  if ← keywords ["DISTINCT", "BY", "NAME"] then return " DISTINCT BY NAME"
  else if ← keywords ["BY", "NAME"] then return " BY NAME"
  else if ← keyword "ALL" then
    if ← keywords ["BY", "NAME"] then return " ALL BY NAME" else return " ALL"
  else if ← keyword "DISTINCT" then return " DISTINCT"
  else return ""

/-- What a query is about that is not combined of others. -/
def simpleBody (inner : Inner) : Parser QueryBody := do
  if ← peekKeyword "SELECT" then return .select (← select inner)
  else if ← peekSign "(" then return .nested (← parenthesized inner.queryText)
  else if ← keyword "VALUES" then return .other (← rows inner (← dialectIn [.mysql]))
  else if ← keyword "TABLE" then return .other (← tableOnly)
  else expected "SELECT, VALUES, or a subquery in the query body" (← peek)

/-- One more query combined with those before it, if its operation binds more tightly than
`bound`. -/
def combined (bound : Nat) (right : Nat → Parser QueryBody) (left : QueryBody) :
    Parser (Option QueryBody) := do
  let word := ((← peek).token.keyword?).getD ""
  match setOperators.lookup word with
  | none => return none
  | some binding =>
    if binding ≤ bound then return none
    else
      let _ ← next
      let quantifier ← setQuantifier
      let right ← right binding
      return some (.operation word (left.text ++ " " ++ word ++ quantifier ++ " " ++ right.text))

/-- What a query is about. Operations to the right of one another are counted down by `depth`. -/
def bodyWithin (inner : Inner) (depth bound : Nat) : Parser QueryBody := do
  let first ← simpleBody inner
  match depth with
  | 0 => return first
  | depth + 1 => repeatedly (combined bound (bodyWithin inner depth)) first

/-- What a query is about. -/
def body (inner : Inner) : Parser QueryBody := do
  bodyWithin inner (← remaining) 0

/-! ### Queries and the levels of a statement -/

/-- A query. -/
def query (inner : Inner) : Parser QueryTree := do
  let withTables ← withTables inner
  if ← keyword "INSERT" then return { withTables, body := .other (← insertion inner) }
  else if ← keyword "UPDATE" then return { withTables, body := .other (← update inner) }
  else
    let body ← body inner
    let sorting ← optionalSorting inner
    let (limit, offset) ← slice inner
    let limitBy ← if ← onlyIn [.ansi] (keyword "BY") then inner.termTexts else pure []
    let settings ← settings
    let fetch ← afterKeyword "FETCH" fetch
    let (locks, forClause) ← forClauses
    let format ← format
    return { withTables, body, sorting, limit, offset, limitBy, settings, fetch, locks, forClause,
             format }

/-- The parsers of a level that has so many levels inside it and is itself inside others. -/
def level : Nat → Inner
  | 0 => .tooDeep
  | depth + 1 =>
    let inner := level depth
    { termAbove := termAbove inner, query := query inner }

end SelectBinding.Sql.Grammar
