import SelectBinding.Sql.Grammar.Binding
import SelectBinding.Sql.Grammar.Forms

/-!
Expressions.

A term is an operand followed by operators with what belongs to them. An operand that begins with a
keyword is read as the form of that keyword; where this fails, the word may still be a name.
-/

namespace SelectBinding.Sql.Grammar

open Sql.Parser

/-! ### Operands -/

/-- One more part of a name, if there is a point. -/
def nextPart (parts : List Ident) : Parser (Option (List Ident)) := do
  if ← sign "." then
    let t ← next
    match t.token with
    | .word value quote => return some (wordIdent value quote t.place :: parts)
    | .string .plain value => return some (stringIdent '\'' value :: parts)
    | .sign "*" => expected "an identifier after '.'" t
    | _ => expected "an identifier or a '*' after '.'" t
  else return none

/-- Whether an asterisk after a point comes next where it may end a name inside an expression. -/
def asteriskEndsName : Parser Bool :=
  onlyIn [.postgres] (do
    if ← peekSign "." then
      return (← peekAt 1).token == .sign "*"
    else return false)

/-- What a word is that is no keyword here: a name, a call, or a mark of the character set of the
string after it. -/
def plainWord (inner : Inner) (word : Ident) : Parser Term := do
  let t ← peek
  match t.token with
  | .sign "(" | .sign "." =>
    let parts ← repeatedly (fun parts => do
      if ← asteriskEndsName then return none else nextPart parts) [word]
    let name := parts.reverse
    if ← sign "." then
      let _ ← next
      return .other (pathText name ++ ".*")
    else if ← peekSign "(" then callAfter inner name false
    else return .path name
  | .string .plain _ | .string .inDouble _ | .string .hex _ =>
    if word.value.startsWith "_" then
      return .other (word.value ++ " " ++ (← literalText))
    else return .name word
  | _ => return .name word

/-- Words that stay keywords even where their form fails. -/
def stayKeywords : List String :=
  Reserved.insideExpression

/-- The form that a keyword begins, after that keyword; `none` when it begins none here. Lengths
of time contain an operand. -/
def keywordForm (inner : Inner) (operand : Parser Term) (t : Located) (word : String)
    (name : Ident) : Parser (Option Term) := do
  let dialect ← dialect
  let parenthesis ← peekSign "("
  match word with
  | "TRUE" => return some (.literal (.boolean true))
  | "FALSE" => return some (.literal (.boolean false))
  | "NULL" => return some (.literal .null)
  | "CURRENT_CATALOG" | "CURRENT_USER" | "SESSION_USER" | "USER" =>
    if dialect.isOneOf [.ansi, .postgres] then return some (bareCall name) else return none
  | "CURRENT_TIMESTAMP" | "CURRENT_TIME" | "CURRENT_DATE" | "LOCALTIME" | "LOCALTIMESTAMP" =>
    some <$> momentForm inner name
  | "CASE" => some <$> caseForm inner
  | "CONVERT" => some <$> convertForm inner "CONVERT"
  | "TRY_CONVERT" =>
    if dialect = .ansi then some <$> convertForm inner "TRY_CONVERT" else return none
  | "CAST" | "TRY_CAST" | "SAFE_CAST" => some <$> castForm inner word
  | "EXISTS" => some <$> existsForm inner "EXISTS"
  | "EXTRACT" => some <$> extractForm inner
  | "CEIL" | "FLOOR" => some <$> roundingForm inner word
  | "POSITION" =>
    if parenthesis then some <$> positionForm inner (← bindingOf .membership) name
    else return none
  | "SUBSTRING" => some <$> substringForm inner
  | "OVERLAY" => some <$> overlayForm inner
  | "TRIM" => some <$> trimForm inner
  | "INTERVAL" => some <$> interval inner operand
  | "ARRAY" =>
    if ← sign "[" then some <$> arrayForm inner "ARRAY"
    else if parenthesis then some <$> queryArrayForm inner name
    else return none
  | "NOT" =>
    if ← keyword "EXISTS" then some <$> existsForm inner "NOT EXISTS"
    else return some (.unary .not (← inner.termAbove (← bindingOf .not)))
  | "MATCH" => if dialect.isOneOf [.ansi, .mysql] then some <$> matchForm else return none
  | "STRUCT" => if dialect = .ansi then some <$> recordForm inner t.place else return none
  | "PRIOR" =>
    if ← isHierarchical then
      return some (.other ("PRIOR " ++ (← inner.termAbove (← bindingOf .sum)).text))
    else return none
  | "MAP" =>
    if (← peekSign "\x7b") && dialect = .ansi then some <$> mapForm inner else return none
  | _ => return none

/-- An operand, and whether a collation may follow it. -/
abbrev Collatable := Term × Bool

/-- An operand that is a bare word, after that word. -/
def bareWordOperand (inner : Inner) (operand : Parser Term) (t : Located) (word : String)
    (name : Ident) : Parser Collatable := do
  match ← attempt (keywordForm inner operand t word name) with
  | .ok (some found) => return (found, true)
  | .ok none => return (← plainWord inner name, true)
  | .error failure =>
    if stayKeywords.contains word then failWith failure
    else
      match ← attempt (plainWord inner name) with
      | .ok found => return (found, false)
      | .error _ => failWith failure

/-- A literal that begins with the name of its type. -/
def typedLiteral (inner : Inner) (operand : Parser Term) : Parser Term := do
  match ← dataType inner with
  | .interval => interval inner operand
  | .unknown _ => fail "no type"
  | .known type => return .other (type ++ " " ++ quoted '\'' (← literalString))

/-- What parentheses hold, after the opening one: a query, a term or several terms. -/
def parenthesesOperand (inner : Inner) : Parser Term := do
  let found ←
    if ← queryAhead then pure (.subquery (← inner.query).text)
    else do
      match ← commaSeparated inner.term with
      | [term] => pure (.nested term)
      | terms => pure (.other (inParentheses (commas (Term.textsOf terms))))
  expectSign ")"
  if ← sign "." then
    let t ← next
    match t.token with
    | .word value quote =>
      return .other (found.text ++ "." ++ (wordIdent value quote t.place).text)
    | _ => failAt ("Expected identifier, found: " ++ t.token.text) t.place
  else return found

/-- The signs before a term that only the PostgreSQL dialect has. -/
def postgresSigns : List (String × UnaryOperator) :=
  [("!!", .unknown "!!"), ("|/", .unknown "|/"), ("||/", .unknown "||/"), ("@", .unknown "@"),
   ("~", .bitwiseNot)]

/-- An operand that begins with a sign, after that sign. -/
def signOperand (inner : Inner) (t : Located) (spelling : String) : Parser Term := do
  let inPostgres ← dialectIn [.postgres]
  let unary (op : UnaryOperator) (group : OperatorGroup) : Parser Term := do
    return .unary op (← inner.termAbove (← bindingOf group))
  match spelling with
  | "[" => arrayForm inner ""
  | "+" => unary .plus .product
  | "-" => unary .minus .product
  | "(" => parenthesesOperand inner
  | "\x7b" => bracesForm inner t
  | _ =>
    match if inPostgres then postgresSigns.lookup spelling else none with
    | some op => unary op .sum
    | none =>
      if spelling = ":" ∨ spelling = "@" then return .literal (← namedParameter spelling)
      else expected "an expression" t

/-- An operand before its collation. -/
def operandStart (inner : Inner) (operand : Parser Term) : Parser Collatable := do
  match ← maybe (typedLiteral inner operand) with
  | some found => return (found, false)
  | none =>
    let t ← peek
    match t.token with
    | .word value quote =>
      let _ ← next
      let name := wordIdent value quote t.place
      match t.token.keyword? with
      | some word => bareWordOperand inner operand t word name
      | none => return (← plainWord inner name, true)
    | .sign spelling =>
      let _ ← next
      return (← signOperand inner t spelling, true)
    | .string .escaped _ =>
      if ← dialectIn [.ansi, .postgres] then return (.literal (← literal), true)
      else expected "an expression" (← next)
    | .number _ _ | .string _ _ | .parameter _ => return (.literal (← literal), true)
    | _ => expected "an expression" (← next)

/-- An operand. Operands that directly contain one another are counted down by `depth`. -/
def operandWithin (inner : Inner) : Nat → Parser Term
  | 0 => failWith .tooDeep
  | depth + 1 => do
    let (start, collatable) ← operandStart inner (operandWithin inner depth)
    let collated ← if collatable then keyword "COLLATE" else pure false
    if collated then return .other (start.text ++ " COLLATE " ++ (← objectNameText))
    else return start

/-- An operand. -/
def operand (inner : Inner) : Parser Term := do
  operandWithin inner ((← remaining) + 1)

/-! ### Operators -/

/-- The operators that are signs, apart from those that only some dialects have. -/
def signOperators : List (String × Operator) :=
  [("=", .known .eq rfl), ("==", .known .eq rfl), ("<>", .known .notEq rfl),
   (">", .known .gt rfl), (">=", .known .gtEq rfl), ("<", .known .lt rfl),
   ("<=", .known .ltEq rfl), ("+", .known .add rfl), ("-", .known .subtract rfl),
   ("*", .known .multiply rfl), ("/", .known .divide rfl), ("%", .known .modulo rfl),
   ("||", .known .concat rfl), ("|", .known .bitwiseOr rfl), ("&", .known .bitwiseAnd rfl)] ++
    ["<=>", "~", "~*", "!~", "!~*", "~~", "~~*", "!~~", "!~~*", "->", "->>", "#>", "#>>", "@>",
      "<@", "#-", "@?", "@@", "?", "?&", "?|"].map fun spelling => (spelling, .unknown spelling)

/-- The operator that a sign is in a dialect. -/
def signOperator? (dialect : Dialect) (spelling : String) : Option Operator :=
  match signOperators.lookup spelling with
  | some op => some op
  | none =>
    let inAnsi := dialect == .ansi
    let inPostgres := dialect == .postgres
    match spelling with
    | "^" => some (if inPostgres then .unknown "^" else .known .bitwiseXor rfl)
    | "//" => if inAnsi then some (.unknown "//") else none
    | "<<" => if inAnsi || inPostgres then some (.known .shiftLeft rfl) else none
    | ">>" => if inAnsi || inPostgres then some (.known .shiftRight rfl) else none
    | "#" => if inPostgres then some (.unknown "#") else none
    | "&&" | "^@" => if inAnsi || inPostgres then some (.unknown spelling) else none
    | _ => none

/-- The name of an operator in parentheses, with points between its parts. -/
def operatorName : Parser String :=
  parenthesized (do
    let first := (← next).token.text
    let rest ← many (sign ".") (return (← next).token.text)
    return String.intercalate "." (first :: rest))

/-- The operator that a token is, after that token; `none` when it is something else. -/
def plainOperator (token : Token) : Parser (Option Operator) := do
  let dialect ← dialect
  match token with
  | .sign spelling => return signOperator? dialect spelling
  | .userOperator spelling => return some (.unknown spelling)
  | .word _ _ =>
    match token.keyword? with
    | some "AND" => return some (.known .and rfl)
    | some "OR" => return some (.known .or rfl)
    | some "XOR" => return some (.known .xor rfl)
    | some "OPERATOR" =>
      if dialect.isOneOf [.ansi, .postgres] then
        return some (.unknown ("OPERATOR" ++ inParentheses (← operatorName)))
      else return none
    | _ => return none
  | _ => return none

/-- The operators that may compare with each of several values. -/
def comparisons : List Operator :=
  [.known .gt rfl, .known .lt rfl, .known .gtEq rfl, .known .ltEq rfl, .known .eq rfl,
   .known .notEq rfl]

/-- A comparison with each of several values, after the word that says with how many of them. -/
def quantified (inner : Inner) (left : Term) (op : Operator) (place : Location) (word : String)
    (binding : Nat) : Parser Term := do
  let parenthesis ← peek
  unless parenthesis.token == .sign "(" do expected "(" parenthesis
  let after ← peekAt 1
  let right ←
    if after.token.isOneOf ["SELECT", "WITH"] then pure (← inner.termAbove binding)
    else do
      expectSign "("
      let right ← inner.termAbove binding
      expectSign ")"
      pure right
  unless comparisons.contains op do
    failAt ("Expected one of [=, >, <, =>, =<, !=] as comparison operator, found: " ++ op.text)
      place
  let rightText :=
    match right with
    | .subquery _ => right.text
    | _ => inParentheses right.text
  return .other (left.text ++ " " ++ op.text ++ " " ++ word ++ rightText)

/-- What follows `IS`. -/
def isForm (inner : Inner) (left : Term) : Parser Term := do
  let said (words : String) : Parser Term := return .other (left.text ++ " IS " ++ words)
  if ← keyword "NULL" then return .isNull left
  else if ← keywords ["NOT", "NULL"] then return .isNotNull left
  else if ← keyword "TRUE" then said "TRUE"
  else if ← keywords ["NOT", "TRUE"] then said "NOT TRUE"
  else if ← keyword "FALSE" then said "FALSE"
  else if ← keywords ["NOT", "FALSE"] then said "NOT FALSE"
  else if ← keyword "UNKNOWN" then said "UNKNOWN"
  else if ← keywords ["NOT", "UNKNOWN"] then said "NOT UNKNOWN"
  else if ← keywords ["DISTINCT", "FROM"] then said ("DISTINCT FROM " ++ (← inner.termText))
  else if ← keywords ["NOT", "DISTINCT", "FROM"] then
    said ("NOT DISTINCT FROM " ++ (← inner.termText))
  else expected "[NOT] NULL or TRUE|FALSE or [NOT] DISTINCT FROM after IS" (← peek)

/-- The word before an operator that is negated. -/
def negation (negated : Bool) : String :=
  if negated then "NOT " else ""

/-- What follows `IN`. -/
def membership (inner : Inner) (left : Term) (negated : Bool) : Parser Term := do
  let start := left.text ++ " " ++ negation negated ++ "IN "
  if ← keyword "UNNEST" then
    return .other (start ++ "UNNEST" ++ inParentheses (← parenthesized inner.termText))
  else
    parenthesized (do
      if ← queryAhead then return .aboutSubquery (start ++ inParentheses (← inner.queryText))
      else if ← dialectIn [.sqlite] then
        return .inList left (← commaSeparatedUpTo ")" inner.term) negated
      else return .inList left (← commaSeparated inner.term) negated)

/-- The character that takes a character of a pattern for itself, perhaps none. -/
def escape? : Parser (Option String) :=
  afterKeyword "ESCAPE" literalString

/-- The text of the character that takes a character of a pattern for itself. -/
def escapeText : Option String → String
  | some escape => " ESCAPE '" ++ escape ++ "'"
  | none => ""

/-- A comparison with a pattern that queries do not have, after the words for it. -/
def otherPattern (inner : Inner) (left : Term) (negated : Bool) (words : String) : Parser Term := do
  let pattern ← inner.termAbove (← bindingOf .pattern)
  let escape ← escape?
  return .other (left.text ++ " " ++ negation negated ++ words ++ pattern.text ++
    escapeText escape)

/-- The word for a match with a regular expression. `REGEXP` and `RLIKE` mean the same, so one
right after the other counts as the first alone. -/
def matchWord? : Parser (Option String) := do
  let first ← oneOf ["REGEXP"]
  let second ← oneOf ["RLIKE"]
  return first.orElse fun _ => second

/-- What follows a term with or without `NOT`. -/
def negatable (inner : Inner) (left : Term) : Parser Term := do
  let negated ← keyword "NOT"
  match ← matchWord? with
  | some word =>
    let pattern ← inner.termAbove (← bindingOf .pattern)
    return .other (left.text ++ " " ++ negation negated ++ word ++ " " ++ pattern.text)
  | none =>
    if ← keyword "IN" then membership inner left negated
    else if ← keyword "BETWEEN" then
      let low ← inner.termAbove (← bindingOf .membership)
      expectKeyword "AND"
      let high ← inner.termAbove (← bindingOf .membership)
      return .between left negated low high
    else if ← keyword "LIKE" then
      let any ← keyword "ANY"
      let pattern ← inner.termAbove (← bindingOf .pattern)
      return .like negated any left pattern (← escape?)
    else if ← keyword "ILIKE" then
      let any ← keyword "ANY"
      otherPattern inner left negated ("ILIKE " ++ if any then "ANY " else "")
    else if ← keywords ["SIMILAR", "TO"] then otherPattern inner left negated "SIMILAR TO "
    else expected "IN or BETWEEN after NOT" (← peek)

/-- The bounds of a range of indices after the lower one. -/
def indexRange (inner : Inner) (low : String) : Parser String := do
  if ← sign "]" then return low ++ ":"
  else
    let high ← inner.termText
    if ← sign "]" then return low ++ ":" ++ high
    else
      expectSign ":"
      if ← sign "]" then return low ++ ":" ++ high
      else
        let step ← inner.termText
        expectSign "]"
        return low ++ ":" ++ high ++ ":" ++ step

/-- An index or a range of indices after the opening bracket. -/
def index (inner : Inner) : Parser String := do
  if ← sign ":" then indexRange inner ""
  else
    let low ← inner.termText
    if ← sign "]" then return low
    else
      expectSign ":"
      indexRange inner low

/-- A key after the opening bracket. -/
def mapKey (inner : Inner) : Parser String := do
  let key ← inner.termText
  expectSign "]"
  return "[" ++ key ++ "]"

/-- What follows an opening bracket. -/
def subscripted (inner : Inner) (left : Term) : Parser Term := do
  if ← dialectIn [.ansi, .postgres] then
    return .other (left.text ++ "[" ++ (← index inner) ++ "]")
  else
    let first ← mapKey inner
    let rest ← many (sign "[") (mapKey inner)
    return .other (left.text ++ String.join (first :: rest))

/-- A token as messages name it that find no use for it between two terms. -/
def uselessName (token : Token) : String :=
  match token with
  | .word value none =>
    "Word(Word \x7b value: \"" ++ value ++ "\", quote_style: None, keyword: " ++
      Token.capitalized value ++ " \x7d)"
  | .sign "<<" => "ShiftLeft"
  | .sign ">>" => "ShiftRight"
  | .sign "#" => "Sharp"
  | .sign "!" => "ExclamationMark"
  | .sign "&&" => "Overlap"
  | .sign "^@" => "CaretAt"
  | token => token.text

/-- What follows a term after a token that is no plain operator. -/
def otherOperator (inner : Inner) (left : Term) (t : Located) (binding : Nat) : Parser Term := do
  let useless : Parser Term :=
    failAt ("No infix parser for token " ++ uselessName t.token) t.place
  match t.token with
  | .sign "::" => return .other (left.text ++ "::" ++ (← dataTypeText inner))
  | .sign "!" =>
    if ← dialectIn [.postgres] then return .unary (.trailing "!") left else useless
  | .sign "[" => subscripted inner left
  | token =>
    match token.keyword? with
    | some "IS" => isForm inner left
    | some "AT" =>
      expectKeywords ["TIME", "ZONE"]
      return .other (left.text ++ " AT TIME ZONE " ++ (← inner.termAbove binding).text)
    | _ => useless

/-- The words that an operator begins with that may be negated. -/
def negatableWords : List String :=
  ["NOT", "IN", "BETWEEN", "LIKE", "ILIKE", "SIMILAR", "REGEXP", "RLIKE"]

/-- What follows a term that an operator comes after, the operator binding as `binding` says. -/
def operatorAfter (inner : Inner) (left : Term) (binding : Nat) : Parser Term := do
  let t ← peek
  if ← onlyIn [.mysql] (keyword "DIV") then
    return .binary left (.unknown "DIV") (← inner.term)
  else if t.token.isOneOf negatableWords then negatable inner left
  else
    let _ ← next
    match ← plainOperator t.token with
    | none => otherOperator inner left t binding
    | some op =>
      match ← oneOf ["ANY", "ALL", "SOME"] with
      | some word => quantified inner left op t.place word binding
      | none => return .binary left op (← inner.termAbove binding)

/-- One more operator after a term, if it binds more tightly than `bound`. -/
def nextOperator (inner : Inner) (bound : Nat) (left : Term) : Parser (Option Term) := do
  let binding ← nextBinding
  if bound < binding then some <$> operatorAfter inner left binding else return none

/-- A term that ends before the first operator that binds no more tightly than `bound`. -/
def termAbove (inner : Inner) (bound : Nat) : Parser Term := do
  repeatedly (nextOperator inner bound) (← operand inner)

end SelectBinding.Sql.Grammar
