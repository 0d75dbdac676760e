import SelectBinding.Sql.Grammar.Sources

/-!
A select: its items and its clauses.
-/

namespace SelectBinding.Sql.Grammar

open Sql.Parser

/-! ### Items -/

/-- What is read after a keyword: one thing, or several in parentheses. -/
def oneOrMore (word : String) (p : Parser String) : Parser String := do
  if ← sign "(" then
    let found ← commaSeparated p
    expectSign ")"
    return word ++ " " ++ inParentheses (commas found)
  else return word ++ " " ++ (← p)

/-- The pattern of names after an asterisk. -/
def wildcardPattern : Parser String := do
  let t ← next
  match t.token with
  | .string .plain value => return "ILIKE " ++ quoted '\'' value
  | _ => expected "ilike pattern" t

/-- The columns left out of an asterisk. -/
def wildcardExcept : Parser String := do
  let columns ←
    if ← peekSign "(" then columnNameTexts else pure [(← identifier).text]
  return "EXCEPT " ++ inParentheses (commas columns)

/-- The columns of an asterisk that get other values. -/
def wildcardReplace (inner : Inner) : Parser String := do
  let t ← next
  unless t.token == .sign "(" do expected "( after REPLACE but" t
  let found ← commaSeparated (do
    let term ← inner.termText
    let words := if ← keyword "AS" then " AS " else " "
    return term ++ words ++ (← identifier).text)
  expectSign ")"
  return "REPLACE " ++ inParentheses (commas found)

/-- A column of an asterisk with its other name. -/
def otherName : Parser String := do
  let name ← identifier
  expectKeyword "AS"
  return name.text ++ " AS " ++ (← identifier).text

/-- What is written after an asterisk. -/
def wildcardOptions (inner : Inner) : Parser WildcardOptions := do
  if ← dialectIn [.ansi] then
    let ilike ← afterKeyword "ILIKE" wildcardPattern
    let exclude ←
      if ilike.isSome then pure none
      else afterKeyword "EXCLUDE" (oneOrMore "EXCLUDE" (return (← identifier).text))
    let except ← afterKeyword "EXCEPT" wildcardExcept
    let replace ← afterKeyword "REPLACE" (wildcardReplace inner)
    let rename ← afterKeyword "RENAME" (oneOrMore "RENAME" otherName)
    return { ilike, exclude, except, replace, rename }
  else return {}

/-- Whether a term is the bare word `FROM`, which then stands where an item is missing. -/
def isBareFrom : Term → Bool
  | .name ⟨value, none, _⟩ => Name.agree value "FROM"
  | _ => false

/-- An item after `SELECT`. -/
def selectItem (inner : Inner) : Parser SelectItem := do
  match ← starred inner with
  | .all place => return .wildcard place (← wildcardOptions inner)
  | .allOf name => return .qualifiedWildcard name (← wildcardOptions inner)
  | .term term =>
    if isBareFrom term then
      failAt ("Expected an expression, found: " ++ term.text) (← peek).place
    else
      match ← optionalAlias Reserved.afterColumn with
      | some aliasName => return .aliased term aliasName
      | none => return .term term

/-! ### Clauses before the tables -/

/-- Whether equal rows are left out, perhaps not said. -/
def distinctness (inner : Inner) : Parser (Option String) := do
  let t ← peek
  let all ← keyword "ALL"
  if ← keyword "DISTINCT" then
    if all then failAt "Cannot specify both ALL and DISTINCT" t.place
    else if ← keyword "ON" then
      expectSign "("
      let terms ← if ← peekSign ")" then pure [] else inner.termTexts
      expectSign ")"
      return some ("DISTINCT ON " ++ inParentheses (commas terms))
    else return some "DISTINCT"
  else return none

/-- How many rows are taken, after the keyword. -/
def top (inner : Inner) : Parser String := do
  let quantity ←
    if ← peekSign "(" then pure (inParentheses (← parenthesized inner.termText))
    else pure (toString (← literalNat))
  let percent := if ← keyword "PERCENT" then " PERCENT" else ""
  let ties := if ← keywords ["WITH", "TIES"] then " WITH TIES" else ""
  return "TOP " ++ quantity ++ percent ++ ties

/-- The table that the rows go into, after the keyword. -/
def intoTable : Parser String := do
  let temporary := if (← oneOf ["TEMP", "TEMPORARY"]).isSome then " TEMPORARY" else ""
  let unlogged := if ← keyword "UNLOGGED" then " UNLOGGED" else ""
  let table := if ← keyword "TABLE" then " TABLE" else ""
  return "INTO" ++ temporary ++ unlogged ++ table ++ " " ++ (← objectNameText)

/-! ### Clauses after the tables -/

/-- A call made for every row of the tables. -/
def lateralView (inner : Inner) : Parser String := do
  let outer := if ← keyword "OUTER" then " OUTER" else ""
  let call ← inner.termText
  let name ← objectNameText
  let columns ← commaSeparated (optionalAlias ["WHERE", "GROUP", "CLUSTER", "HAVING", "LATERAL"])
  let names := columns.filterMap fun column => column.map Ident.text
  return " LATERAL VIEW" ++ outer ++ " " ++ call ++ " " ++ name ++
    if names.isEmpty then "" else " AS " ++ commas names

/-- Terms in parentheses, perhaps none; where a single term may stand for itself, it may. -/
def groupingSet (inner : Inner) (single : Bool) : Parser (List String) := do
  if single && !(← peekSign "(") then return [← inner.termText]
  else
    expectSign "("
    let terms ← if ← peekSign ")" then pure [] else inner.termTexts
    expectSign ")"
    return terms

/-- Sets of terms that rows are grouped by. -/
def groupingSets (inner : Inner) (words : String) (single : Bool) : Parser String := do
  let sets ← parenthesized (commaSeparated (groupingSet inner single))
  let shown (terms : List String) : String :=
    match terms with
    | [term] => if single then term else inParentheses term
    | terms => inParentheses (commas terms)
  return words ++ " " ++ inParentheses (commas (sets.map shown))

/-- Something that rows are grouped by. -/
def groupingTerm (inner : Inner) : Parser String := do
  if ← dialectIn [.ansi, .postgres] then
    if ← keywords ["GROUPING", "SETS"] then groupingSets inner "GROUPING SETS" false
    else if ← keyword "CUBE" then groupingSets inner "CUBE" true
    else if ← keyword "ROLLUP" then groupingSets inner "ROLLUP" true
    else if (← peekSign "(") && (← peekAt 1).token == .sign ")" then
      let _ ← next
      let _ ← next
      return "()"
    else inner.termText
  else inner.termText

/-- A change to a grouping. -/
def groupingModifier : Parser String := do
  return "WITH " ++ (← expectOneOf ["ROLLUP", "CUBE", "TOTALS"])

/-- The grouping of a select. -/
def grouping (inner : Inner) : Parser Grouping := do
  let modifiers : Parser (List String) := many (onlyIn [.ansi] (keyword "WITH")) groupingModifier
  if ← keywords ["GROUP", "BY"] then
    if ← keyword "ALL" then return .all (← modifiers)
    else
      let terms ← commaSeparated (groupingTerm inner)
      return .by terms (← modifiers)
  else return .absent

/-- Terms after two keywords, if these are there. -/
def termsBy (inner : Inner) (word : String) : Parser (List String) := do
  if ← keywords [word, "BY"] then inner.termTexts else return []

/-- A window with its name. -/
def namedWindow (inner : Inner) : Parser String := do
  let name ← identifier
  expectKeyword "AS"
  if ← sign "(" then return name.text ++ " AS " ++ inParentheses (← windowRest inner)
  else if ← dialectIn [.ansi] then return name.text ++ " AS " ++ (← identifier).text
  else expected "(" (← peek)

/-- Windows with their names, perhaps none. -/
def namedWindows (inner : Inner) : Parser (List String) := do
  if ← keyword "WINDOW" then commaSeparated (namedWindow inner) else return []

/-- The terms that lead from a row to the rows below it. -/
def hierarchy (inner : Inner) : Parser String :=
  return commas (← hierarchically inner.termTexts)

/-- How rows form a hierarchy, perhaps not said. -/
def connectBy (inner : Inner) : Parser (Option String) := do
  let shown (condition relations : String) : Option String :=
    some ("START WITH " ++ condition ++ " CONNECT BY " ++ relations)
  if ← onlyIn [.ansi] (keywords ["CONNECT", "BY"]) then
    let relations ← hierarchy inner
    expectKeywords ["START", "WITH"]
    let condition ← inner.termText
    return shown condition relations
  else if ← onlyIn [.ansi] (return (← peek).token.isOneOf ["START", "CONNECT"]) then
    expectKeywords ["START", "WITH"]
    let condition ← inner.termText
    expectKeywords ["CONNECT", "BY"]
    return shown condition (← hierarchy inner)
  else return none

/-- A select. -/
def select (inner : Inner) : Parser Select := do
  let place := (← peek).place
  expectKeyword "SELECT"
  let distinct ← distinctness inner
  let top ← afterKeyword "TOP" (top inner)
  let items ← commaSeparated (selectItem inner)
  let into ← afterKeyword "INTO" intoTable
  let sources ← if ← keyword "FROM" then commaSeparated (fromItem inner) else pure []
  let lateralViews ← many (keywords ["LATERAL", "VIEW"]) (lateralView inner)
  let prewhere ←
    if ← dialectIn [.ansi] then afterKeyword "PREWHERE" inner.termText else pure none
  let filter ← afterKeyword "WHERE" inner.term
  let grouping ← grouping inner
  let clusterBy ← termsBy inner "CLUSTER"
  let distributeBy ← termsBy inner "DISTRIBUTE"
  let sortBy ← termsBy inner "SORT"
  let having ← afterKeyword "HAVING" inner.termText
  let windowsFirst ← peekKeyword "WINDOW"
  let early ← namedWindows inner
  let qualify ← afterKeyword "QUALIFY" inner.termText
  let late ← if windowsFirst then pure [] else
    if qualify.isSome then namedWindows inner else pure []
  let connectBy ← connectBy inner
  return { place, distinct, top, items, into, sources, lateralViews, prewhere, filter, grouping,
           clusterBy, distributeBy, sortBy, having, windows := early ++ late, qualify,
           windowsFirst, connectBy }

end SelectBinding.Sql.Grammar
