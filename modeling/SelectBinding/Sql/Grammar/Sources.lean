import SelectBinding.Sql.Grammar.Documents
import SelectBinding.Sql.Grammar.RowPatterns
import SelectBinding.Sql.Grammar.Terms

/-!
What comes after `FROM`: tables, queries in parentheses, and what is joined to them.
-/

namespace SelectBinding.Sql.Grammar

open Sql.Parser

/-! ### Aliases -/

/-- A name that an alias gives to a column, perhaps with a type. -/
def aliasColumn (inner : Inner) : Parser String := do
  let name ← identifier
  match ← maybe (dataType inner) with
  | some type => return name.text ++ " " ++ type.text
  | none => return name.text

/-- The names that an alias gives to columns, perhaps none. -/
def aliasColumns (inner : Inner) : Parser (List String) := do
  if ← sign "(" then
    let columns ← commaSeparated (aliasColumn inner)
    expectSign ")"
    return columns
  else return []

/-- An alias of a table, perhaps none. -/
def tableAlias (inner : Inner) : Parser (Option TableAlias) := do
  match ← optionalAlias Reserved.afterTable with
  | some name => return some { name, columns := ← aliasColumns inner }
  | none => return none

/-! ### Tables -/

/-- A setting by its name and value. -/
def setting : Parser String := do
  let key ← identifier
  expectSign "="
  return key.text ++ " = " ++ (← literalText)

/-- Settings, perhaps none. -/
def settings : Parser (Option String) := do
  if ← onlyIn [.ansi] (keyword "SETTINGS") then
    return some (commas (← commaSeparated setting))
  else return none

/-- The arguments of a table so far, the last one first, and whether the list may go on. -/
def tableArgument (inner : Inner) (found : List String × Bool) :
    Parser (Option (List String × Bool)) := do
  if !found.2 then return none
  else
    match ← settings with
    | some settings => return some (("SETTINGS " ++ settings) :: found.1, false)
    | none =>
      let argument ← argument inner
      return some (argument.text :: found.1, ← sign ",")

/-- The arguments of a table after the opening parenthesis. -/
def tableArguments (inner : Inner) : Parser String := do
  if ← sign ")" then return ""
  else
    let (found, _) ← repeatedly (tableArgument inner) ([], true)
    expectSign ")"
    return commas found.reverse

/-- What follows the name of a table, up to the alias. -/
def tableExtras (inner : Inner) : Parser TableExtras := do
  let partitions ←
    if ← onlyIn [.ansi, .mysql] (keyword "PARTITION") then
      parenthesized (commaSeparated (return (← identifier).text))
    else pure []
  let arguments ← if ← sign "(" then some <$> tableArguments inner else pure none
  let withOrdinality ← keywords ["WITH", "ORDINALITY"]
  return { partitions, arguments, withOrdinality }

/-- Hints on how a table is read. -/
def tableHints (inner : Inner) : Parser (List String) := do
  let opening : Parser Bool := do
    return (← peekKeyword "WITH") && (← peekAt 1).token == .sign "("
  if ← opening then
    let _ ← next
    parenthesized inner.termTexts
  else return []

/-- A table by its name. -/
def namedTable (inner : Inner) : Parser FromFactor := do
  let name ← objectName
  let extras ← tableExtras inner
  let given ← tableAlias inner
  let hints ← tableHints inner
  return { body := .table name { extras with hints }, tableAlias := given }

/-- A query in parentheses, after the opening one. -/
def derivedTable (inner : Inner) (start : String) : Parser FromFactor := do
  let query ← inner.queryText
  expectSign ")"
  return { body := .derived (start ++ inParentheses query), tableAlias := ← tableAlias inner }

/-- What follows `LATERAL`. -/
def lateral (inner : Inner) : Parser FromFactor := do
  if ← sign "(" then derivedTable inner "LATERAL "
  else
    let name ← objectNameText
    expectSign "("
    let list ←
      if ← sign ")" then pure []
      else do
        let list ← commaSeparated (argument inner)
        expectSign ")"
        pure list
    let text := "LATERAL " ++ name ++ inParentheses (commas (list.map Argument.text))
    return { body := .other text "", tableAlias := ← tableAlias inner }

/-- Rows of values. Where `mayBeEmpty`, a row may have none. -/
def rows (inner : Inner) (mayBeEmpty : Bool) : Parser String := do
  let row : Parser (Bool × String) := do
    let named ← keyword "ROW"
    let values ← parenthesized (do
      if mayBeEmpty && (← peekSign ")") then return [] else inner.termTexts)
    return (named, inParentheses (commas values))
  let found ← commaSeparated row
  let start := if found.any Prod.fst then "ROW" else ""
  return "VALUES " ++ commas (found.map fun row => start ++ row.2)

/-- The elements of lists as rows, after the keyword. -/
def unnested (inner : Inner) : Parser FromFactor := do
  let lists ← parenthesized inner.termTexts
  let ordinality ← keywords ["WITH", "ORDINALITY"]
  let given ← tableAlias inner
  let withOffset ←
    if ← keyword "WITH" then
      if ← keyword "OFFSET" then pure true else pure false
    else pure false
  let after ←
    if withOffset then
      match ← optionalAlias Reserved.afterColumn with
      | some name => pure (" WITH OFFSET AS " ++ name.text)
      | none => pure " WITH OFFSET"
    else pure ""
  let before := "UNNEST" ++ inParentheses (commas lists) ++
    if ordinality then " WITH ORDINALITY" else ""
  return { body := .other before after, tableAlias := given }

/-! ### Turned tables -/

/-- A call with a name for its values. -/
def aliasedCall (inner : Inner) : Parser String := do
  let t ← next
  match t.token with
  | .word value _ =>
    let call ← callAfter inner [⟨value, none, .nowhere⟩] false
    match ← afterKeyword "AS" identifier with
    | some name => return call.text ++ " AS " ++ name.text
    | none => return call.text
  | _ => expected "a function identifier" (← peek)

/-- A term with a name for it. -/
def aliasedTerm (inner : Inner) : Parser String := do
  let term ← inner.termText
  match ← afterKeyword "AS" identifier with
  | some name => return term ++ " AS " ++ name.text
  | none => return term

/-- The values that become columns. -/
def turnedValues (inner : Inner) : Parser String := do
  if ← keyword "ANY" then
    if ← keywords ["ORDER", "BY"] then return "ANY ORDER BY " ++ commas (← sortTexts inner)
    else return "ANY"
  else if ← queryAhead then inner.queryText
  else return commas (← commaSeparated (aliasedTerm inner))

/-- A table whose rows become columns, after the keyword. -/
def pivoted (inner : Inner) (table : FromFactor) : Parser FromFactor := do
  let inside ← parenthesized (do
    let calls ← commaSeparated (aliasedCall inner)
    expectKeyword "FOR"
    let column ← objectNameText
    expectKeyword "IN"
    let values ← parenthesized (turnedValues inner)
    let start := commas calls ++ " FOR " ++ column ++ " IN " ++ inParentheses values
    if ← keywords ["DEFAULT", "ON", "NULL"] then
      return start ++ " DEFAULT ON NULL " ++ inParentheses (← parenthesized inner.termText)
    else return start)
  return { body := .other (table.text ++ " PIVOT" ++ inParentheses inside) "",
           tableAlias := ← tableAlias inner }

/-- A table whose columns become rows, after the keyword. -/
def unpivoted (inner : Inner) (table : FromFactor) : Parser FromFactor := do
  let inside ← parenthesized (do
    let value ← identifier
    expectKeyword "FOR"
    let name ← identifier
    expectKeyword "IN"
    let columns ← columnNameTexts
    return value.text ++ " FOR " ++ name.text ++ " IN " ++ inParentheses (commas columns))
  return { body := .other (table.text ++ " UNPIVOT" ++ inParentheses inside) "",
           tableAlias := ← tableAlias inner }

/-- A table, turned as often as it is said. -/
def turned (inner : Inner) (table : FromFactor) : Parser FromFactor :=
  repeatedly (fun table => do
    match ← oneOf ["PIVOT", "UNPIVOT"] with
    | some "PIVOT" => some <$> pivoted inner table
    | some _ => some <$> unpivoted inner table
    | none => return none) table

/-- A named table, in some of the dialects with what is looked for in its rows. -/
def turnedTable (inner : Inner) : Parser FromFactor := do
  let table ← turned inner (← namedTable inner)
  if ← onlyIn [.ansi] (keyword "MATCH_RECOGNIZE") then
    let text ← parenthesized (rowMatching inner)
    return { body := .other (table.text ++ " MATCH_RECOGNIZE" ++ inParentheses text) "",
             tableAlias := ← tableAlias inner }
  else return table

/-- Whether a word and an opening parenthesis come next, which then are read. -/
def openingWord (word : String) : Parser Bool := do
  if (← peekKeyword word) && (← peekAt 1).token == .sign "(" then
    let _ ← next
    let _ ← next
    return true
  else return false

/-! ### Joins -/

/-- What is said about the rows that belong together: before the join, and after it. -/
def joinConstraint (inner : Inner) (natural : Bool) : Parser (String × String) := do
  if natural then return ("NATURAL ", "")
  else if ← keyword "ON" then return ("", " ON " ++ (← inner.termText))
  else if ← keyword "USING" then
    return ("", " USING" ++ inParentheses (commas (← columnNameTexts)))
  else return ("", "")

/-- The words of a join with `LEFT` or `RIGHT`, after that word. -/
def sidedJoin (side : String) : Parser String := do
  match ← oneOf ["OUTER", "SEMI", "ANTI", "JOIN"] with
  | some "JOIN" => return side ++ " JOIN "
  | some "OUTER" =>
    expectKeyword "JOIN"
    return side ++ " JOIN "
  | some word =>
    expectKeyword "JOIN"
    return side ++ " " ++ word ++ " JOIN "
  | none => fail ("expected OUTER, SEMI, ANTI or JOIN after " ++ side)

/-- The words of a join that has a constraint; `none` when there is no join. -/
def constrainedJoin (natural : Bool) : Parser (Option String) := do
  let t ← peek
  if t.token.isOneOf ["INNER", "JOIN"] then
    let _ ← keyword "INNER"
    expectKeyword "JOIN"
    return some "JOIN "
  else if t.token.isOneOf ["LEFT", "RIGHT"] then
    let _ ← next
    some <$> sidedJoin ((t.token.keyword?).getD "")
  else if t.token.isOneOf ["ANTI", "SEMI"] then
    let _ ← next
    expectKeyword "JOIN"
    return some ((t.token.keyword?).getD "" ++ " JOIN ")
  else if ← keyword "FULL" then
    let _ ← keyword "OUTER"
    expectKeyword "JOIN"
    return some "FULL JOIN "
  else if natural then expected "a join type after NATURAL" t
  else return none

/-- A join, by its text; `none` when there is none. -/
def join (inner : Inner) (factor : Parser FromFactor) : Parser (Option String) := do
  let start := if ← keyword "GLOBAL" then " GLOBAL " else " "
  if ← keyword "CROSS" then
    match ← oneOf ["JOIN", "APPLY"] with
    | some word => return some (start ++ "CROSS " ++ word ++ " " ++ (← factor).text)
    | none => expected "JOIN or APPLY after CROSS" (← peek)
  else if ← keyword "OUTER" then
    expectKeyword "APPLY"
    return some (start ++ "OUTER APPLY " ++ (← factor).text)
  else if ← keyword "ASOF" then
    expectKeyword "JOIN"
    let relation ← factor
    expectKeyword "MATCH_CONDITION"
    let condition ← parenthesized inner.termText
    let (_, after) ← joinConstraint inner false
    return some (start ++ "ASOF JOIN " ++ relation.text ++ " MATCH_CONDITION " ++
      inParentheses condition ++ after)
  else
    let natural ← keyword "NATURAL"
    match ← constrainedJoin natural with
    | none => return none
    | some words =>
      let relation ← factor
      let (before, after) ← joinConstraint inner natural
      return some (start ++ before ++ words ++ relation.text ++ after)

/-- A table item with what is joined to it. -/
def joined (inner : Inner) (factor : Parser FromFactor) : Parser FromItem := do
  let relation ← factor
  let joins ← repeatedly (fun joins => do
    match ← join inner factor with
    | some text => return some (text :: joins)
    | none => return none) []
  return { relation, joins := joins.reverse }

/-! ### Table items -/

/-- An item in parentheses that is no query, with the closing parenthesis and the alias. -/
def closeNested (inner : Inner) (item : FromItem) : Parser FromFactor := do
  let nestedJoin : Parser FromFactor := do
    expectSign ")"
    return { body := .nestedJoin (inParentheses item.text), tableAlias := ← tableAlias inner }
  match item.joins, item.relation.body with
  | _ :: _, _ => nestedJoin
  | [], .nestedJoin _ => nestedJoin
  | [], _ =>
    if ← dialectIn [.ansi] then
      expectSign ")"
      match ← tableAlias inner, item.relation.tableAlias with
      | none, _ => return item.relation
      | some given, none => return { item.relation with tableAlias := some given }
      | some _, some given => fail ("duplicate alias " ++ given.text)
    else expected "joined table" (← peek)

/-- A table item. Items that directly contain one another are counted down by `depth`. -/
def factorWithin (inner : Inner) : Nat → Parser FromFactor
  | 0 => failWith .tooDeep
  | depth + 1 => do
    if ← keyword "LATERAL" then lateral inner
    else if ← keyword "TABLE" then
      let text := "TABLE" ++ inParentheses (← parenthesized inner.termText)
      return { body := .other text "", tableAlias := ← tableAlias inner }
    else if ← sign "(" then
      match ← maybe (derivedTable inner "") with
      | some table => turned inner table
      | none => closeNested inner (← joined inner (factorWithin inner depth))
    else if (← onlyIn [.ansi] (peekKeyword "VALUES")) && (← peekAt 1).token == .sign "(" then
      let _ ← next
      let rows ← rows inner false
      return { body := .derived (inParentheses rows), tableAlias := ← tableAlias inner }
    else if ← onlyIn [.ansi, .postgres] (keyword "UNNEST") then unnested inner
    else if ← openingWord "JSON_TABLE" then
      return { body := .other (← documentTable inner) "", tableAlias := ← tableAlias inner }
    else if ← openingWord "OPENJSON" then
      return { body := .other (← openedTable inner) "", tableAlias := ← tableAlias inner }
    else turnedTable inner

/-- A table item with what is joined to it. -/
def fromItem (inner : Inner) : Parser FromItem := do
  joined inner (factorWithin inner ((← remaining) + 1))

end SelectBinding.Sql.Grammar
