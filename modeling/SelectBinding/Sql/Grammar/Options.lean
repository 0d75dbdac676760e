import SelectBinding.Sql.Grammar.Sorting

/-!
Lists of options: of tables, views and columns, of sequences, and of rules.
-/

namespace SelectBinding.Sql.Grammar

open Sql.Parser

/-! ### Options with a name -/

/-- An option with its value. -/
def optionWithValue (inner : Inner) : Parser String := do
  let name ← identifier
  expectSign "="
  return name.text ++ " = " ++ (← inner.termText)

/-- A name with a direction of sorting. -/
def directedName : Parser String := do
  let name ← identifier
  match ← direction with
  | some true => return name.text ++ " ASC"
  | some false => return name.text ++ " DESC"
  | none => return name.text

/-- How rows are clustered. -/
def clusteredOption : Parser String := do
  if ← keywords ["CLUSTERED", "COLUMNSTORE", "INDEX", "ORDER"] then
    return "CLUSTERED COLUMNSTORE INDEX ORDER " ++ inParentheses (commas (← columnNameTexts))
  else if ← keywords ["CLUSTERED", "COLUMNSTORE", "INDEX"] then
    return "CLUSTERED COLUMNSTORE INDEX"
  else if ← keywords ["CLUSTERED", "INDEX"] then
    return "CLUSTERED INDEX " ++
      inParentheses (commas (← parenthesized (commaSeparated directedName)))
  else fail "invalid CLUSTERED sequence"

/-- How rows are divided among partitions. -/
def partitionOption (inner : Inner) : Parser String := do
  expectKeyword "PARTITION"
  let inside ← parenthesized (do
    let column ← identifier
    expectKeyword "RANGE"
    let side ←
      match ← oneOf ["LEFT", "RIGHT"] with
      | some word => pure (" " ++ word)
      | none => pure ""
    expectKeywords ["FOR", "VALUES"]
    let values ← parenthesized inner.termTexts
    return column.text ++ " RANGE" ++ side ++ " FOR VALUES " ++ inParentheses (commas values))
  return "PARTITION " ++ inParentheses inside

/-- An option. -/
def option (inner : Inner) : Parser String := do
  let special ← dialectIn [.ansi]
  let t := (← peek).token
  if special && t.isKeyword "HEAP" then return (← identifier).text
  else if special && t.isKeyword "PARTITION" then partitionOption inner
  else if special && t.isKeyword "CLUSTERED" then clusteredOption
  else optionWithValue inner

/-- Options in parentheses after a keyword, if that is there. -/
def optionsAfter (inner : Inner) (word : String) : Parser (Option (List String)) := do
  if ← keyword word then return some (← parenthesized (commaSeparated (option inner)))
  else return none

/-! ### Options of sequences -/

/-- A bound of a sequence, perhaps not said. -/
def sequenceBound (word : String) : Parser String := do
  if ← keyword word then return " " ++ word ++ " " ++ (← signedNumeral)
  else if ← keywords ["NO", word] then return " NO " ++ word
  else return ""

/-- A number of a sequence after a word and perhaps another one, perhaps not said. -/
def sequenceNumber (word filler : String) : Parser String := do
  if ← keyword word then
    let words := if ← keyword filler then word ++ " " ++ filler else word
    return " " ++ words ++ " " ++ (← signedNumeral)
  else return ""

/-- The options of a sequence, in their order. -/
def sequenceOptions : Parser String := do
  let increment ← sequenceNumber "INCREMENT" "BY"
  let least ← sequenceBound "MINVALUE"
  let greatest ← sequenceBound "MAXVALUE"
  let start ← sequenceNumber "START" "WITH"
  let cache ← if ← keyword "CACHE" then pure (" CACHE " ++ (← signedNumeral)) else pure ""
  let cycle ←
    if ← keywords ["NO", "CYCLE"] then pure " NO CYCLE"
    else if ← keyword "CYCLE" then pure " CYCLE"
    else pure ""
  return increment ++ least ++ greatest ++ start ++ cache ++ cycle

/-! ### When rules are checked -/

/-- When a rule is checked, as far as it was said. -/
structure Checking where
  deferrable : Option String := none
  initially : Option String := none
  enforced : Option String := none

/-- One more word on when a rule is checked; `none` when none comes next. -/
def nextChecking (c : Checking) : Parser (Option Checking) := do
  let within (found : Option String) (question : Parser Bool) : Parser Bool := do
    if found.isSome then return false else question
  if ← within c.deferrable (keywords ["NOT", "DEFERRABLE"]) then
    return some { c with deferrable := some "NOT DEFERRABLE" }
  else if ← within c.deferrable (keyword "DEFERRABLE") then
    return some { c with deferrable := some "DEFERRABLE" }
  else if ← within c.initially (keyword "INITIALLY") then
    match ← oneOf ["DEFERRED", "IMMEDIATE"] with
    | some word => return some { c with initially := some ("INITIALLY " ++ word) }
    | none => expected "one of DEFERRED or IMMEDIATE" (← peek)
  else if ← within c.enforced (keyword "ENFORCED") then
    return some { c with enforced := some "ENFORCED" }
  else if ← within c.enforced (keywords ["NOT", "ENFORCED"]) then
    return some { c with enforced := some "NOT ENFORCED" }
  else return none

/-- When a rule is checked, after a blank, perhaps not said. -/
def checking : Parser String := do
  let c ← repeatedly nextChecking {}
  let words := [c.deferrable, c.initially, c.enforced].filterMap id
  return String.join (words.map (" " ++ ·))

end SelectBinding.Sql.Grammar
