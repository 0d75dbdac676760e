import SelectBinding.Sql.Grammar.Sorting

/-!
Patterns of rows: what comes after `MATCH_RECOGNIZE`. Only the text of it is kept.
-/

namespace SelectBinding.Sql.Grammar

open Sql.Parser

/-! ### Patterns -/

/-- A number as it is spelled. -/
def rangeBound (wanted : String) : Parser String := do
  let t ← next
  match t.token with
  | .number spelling _ => return spelling
  | _ => expected wanted t

/-- A number of repetitions by its spelling. A wrong one is about `place`. -/
def repetitions (place : Location) (spelling : String) : Parser String :=
  return toString (← natOfBits 32 spelling place)

/-- How often a pattern is repeated, after the opening brace. -/
def repetitionRange : Parser String := do
  let place := (← peek).place
  if ← sign "," then
    let most ← rangeBound "literal number"
    expectSign "\x7d"
    return "\x7b," ++ (← repetitions place most) ++ "\x7d"
  else
    let least ← rangeBound "quantifier range"
    if ← sign "," then
      if ← sign "\x7d" then return "\x7b" ++ (← repetitions place least) ++ ",\x7d"
      else
        let most ← rangeBound "\x7d or upper bound"
        expectSign "\x7d"
        let least ← repetitions place least
        return "\x7b" ++ least ++ "," ++ (← repetitions place most) ++ "\x7d"
    else
      expectSign "\x7d"
      return "\x7b" ++ (← repetitions place least) ++ "\x7d"

/-- How often a pattern is repeated; `none` when nothing is said about it. -/
def repetition : Parser (Option String) := do
  if ← sign "*" then return some "*"
  else if ← sign "+" then return some "+"
  else if ← consume (.parameter "?") then return some "?"
  else if ← sign "\x7b" then some <$> repetitionRange
  else return none

/-- A pattern without repetition. -/
def basePattern (inside : Parser String) : Parser String := do
  let t ← peek
  if ← sign "^" then return "^"
  else if ← consume (.parameter "$") then return "$"
  else if ← sign "\x7b" then
    expectSign "-"
    let name ← identifier
    expectSign "-"
    expectSign "\x7d"
    return "\x7b- " ++ name.text ++ " -\x7d"
  else if t.token == .word "PERMUTE" none then
    let _ ← next
    let names ← parenthesized (commaSeparated identifier)
    return "PERMUTE" ++ inParentheses (commas (names.map Ident.text))
  else if ← peekSign "(" then return "( " ++ (← parenthesized inside) ++ " )"
  else return (← identifier).text

/-- A pattern with its repetitions. -/
def repeatedPattern (inside : Parser String) : Parser String := do
  let base ← basePattern inside
  repeatedly (fun text => do return (← repetition).map fun more => text ++ more) base

/-- Patterns one after the other. -/
def patternRow (inside : Parser String) : Parser String := do
  let first ← repeatedPattern inside
  let rest ← many (return !(← peekSign ")") && !(← peekSign "|")) (repeatedPattern inside)
  return blanks (first :: rest)

/-- Patterns one of which has to fit. Patterns in parentheses are counted down by `depth`. -/
def patternWithin : Nat → Parser String
  | 0 => failWith .tooDeep
  | depth + 1 => do
    let row := patternRow (patternWithin depth)
    let first ← row
    let rest ← many (sign "|") row
    return String.intercalate " | " (first :: rest)

/-- A pattern of rows. -/
def rowPattern : Parser String := do
  patternWithin ((← remaining) + 1)

/-! ### Clauses -/

/-- A value that is measured, with its name. -/
def measure (inner : Inner) : Parser String := do
  let term ← inner.termText
  let _ ← keyword "AS"
  return term ++ " AS " ++ (← identifier).text

/-- Which rows of a match are shown, perhaps not said. -/
def rowsPerMatch : Parser String := do
  if ← keywords ["ONE", "ROW", "PER", "MATCH"] then return "ONE ROW PER MATCH "
  else if ← keywords ["ALL", "ROWS", "PER", "MATCH"] then
    if ← keywords ["SHOW", "EMPTY", "MATCHES"] then
      return "ALL ROWS PER MATCH SHOW EMPTY MATCHES "
    else if ← keywords ["OMIT", "EMPTY", "MATCHES"] then
      return "ALL ROWS PER MATCH OMIT EMPTY MATCHES "
    else if ← keywords ["WITH", "UNMATCHED", "ROWS"] then
      return "ALL ROWS PER MATCH WITH UNMATCHED ROWS "
    else return "ALL ROWS PER MATCH "
  else return ""

/-- Where the next match may begin, perhaps not said. -/
def afterMatch : Parser String := do
  if ← keywords ["AFTER", "MATCH", "SKIP"] then
    if ← keywords ["PAST", "LAST", "ROW"] then return "AFTER MATCH SKIP PAST LAST ROW "
    else if ← keywords ["TO", "NEXT", "ROW"] then return "AFTER MATCH SKIP  TO NEXT ROW "
    else if ← keywords ["TO", "FIRST"] then
      return "AFTER MATCH SKIP TO FIRST " ++ (← identifier).text ++ " "
    else if ← keywords ["TO", "LAST"] then
      return "AFTER MATCH SKIP TO LAST " ++ (← identifier).text ++ " "
    else expected "after match skip option" (← peek)
  else return ""

/-- What a symbol of a pattern stands for. -/
def symbolMeaning (inner : Inner) : Parser String := do
  let name ← identifier
  expectKeyword "AS"
  return name.text ++ " AS " ++ (← inner.termText)

/-- A list after some words, perhaps not there. -/
def listAfter (words : List String) (list : Parser (List String)) : Parser String := do
  if ← keywords words then return blanks words ++ " " ++ commas (← list) ++ " " else return ""

/-- What is looked for in the rows of a table, between the parentheses. -/
def rowMatching (inner : Inner) : Parser String := do
  let parts ← listAfter ["PARTITION", "BY"] inner.termTexts
  let order ← listAfter ["ORDER", "BY"] (sortTexts inner)
  let measures ← listAfter ["MEASURES"] (commaSeparated (measure inner))
  let rows ← rowsPerMatch
  let after ← afterMatch
  expectKeyword "PATTERN"
  let pattern ← parenthesized rowPattern
  expectKeyword "DEFINE"
  let meanings ← commaSeparated (symbolMeaning inner)
  return parts ++ order ++ measures ++ rows ++ after ++ "PATTERN " ++ inParentheses pattern ++
    " DEFINE " ++ commas meanings

end SelectBinding.Sql.Grammar
