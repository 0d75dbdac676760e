import SelectBinding.Sql.Grammar.DataType

/-!
Lengths of time and the units they are measured in.
-/

namespace SelectBinding.Sql.Grammar

open Sql.Parser

/-- The units that may follow a length of time. -/
def lengthUnits : List String :=
  ["YEAR", "MONTH", "WEEK", "DAY", "HOUR", "MINUTE", "SECOND", "CENTURY", "DECADE", "DOW", "DOY",
   "EPOCH", "ISODOW", "ISOYEAR", "JULIAN", "MICROSECOND", "MICROSECONDS", "MILLENIUM",
   "MILLENNIUM", "MILLISECOND", "MILLISECONDS", "NANOSECOND", "NANOSECONDS", "QUARTER",
   "TIMEZONE", "TIMEZONE_HOUR", "TIMEZONE_MINUTE"]

/-- The parts of a moment that have a name of their own. -/
def timeParts : List String :=
  lengthUnits ++
    ["DAYOFWEEK", "DAYOFYEAR", "DATE", "DATETIME", "ISOWEEK", "TIME", "TIMEZONE_ABBR",
     "TIMEZONE_REGION"]

/-- The day that a week starts with, perhaps not said. -/
def firstDayOfWeek : Parser String := do
  if ← onlyIn [.ansi] (sign "(") then
    let day ← identifier
    expectSign ")"
    return inParentheses day.text
  else return ""

/-- A part of a moment. -/
def timePart : Parser String := do
  let otherPart : Parser String := do
    if ← dialectIn [.ansi, .postgres] then return (← identifier).text
    else expected "date/time field" (← next)
  let t ← peek
  match t.token with
  | .word _ _ =>
    match t.token.keyword?.filter timeParts.contains with
    | some "WEEK" =>
      let _ ← next
      return "WEEK" ++ (← firstDayOfWeek)
    | some word =>
      let _ ← next
      return word
    | none => otherPart
  | .string .plain _ => otherPart
  | _ => expected "date/time field" (← next)

/-- A number in parentheses after a blank, perhaps none. -/
def optionalDigits : Parser String := do
  if ← sign "(" then
    let n ← literalNat
    expectSign ")"
    return " (" ++ toString n ++ ")"
  else return ""

/-- The digits of seconds before and after the point, perhaps not said. -/
def digitsOfSeconds : Parser String := do
  if ← sign "(" then
    let whole ← literalNat
    let fraction ← if ← sign "," then pure (", " ++ toString (← literalNat)) else pure ""
    expectSign ")"
    return " (" ++ toString whole ++ fraction ++ ")"
  else return ""

/-- The digits of the largest unit and the smallest unit, perhaps not said. -/
def unitRange : Parser String := do
  let digits ← optionalDigits
  if ← keyword "TO" then
    let last ← timePart
    let fraction ← if last = "SECOND" then optionalDigits else pure ""
    return digits ++ " TO " ++ last ++ fraction
  else return digits

/-- The unit of a length of time, or the units from the largest to the smallest. -/
def lengthQualifier : Parser String := do
  let first ← timePart
  if first = "SECOND" then return " " ++ first ++ (← digitsOfSeconds)
  else return " " ++ first ++ (← unitRange)

/-- A length of time after its keyword. Where the unit must be there, any term may stand before
it; elsewhere only `operand` may. -/
def interval (inner : Inner) (operand : Parser Term) : Parser Term := do
  let unitNeeded ← dialectIn [.mysql]
  let value ← if unitNeeded then inner.term else operand
  let t ← peek
  if t.token.isOneOf lengthUnits then
    return .other ("INTERVAL " ++ value.text ++ (← lengthQualifier))
  else if unitNeeded then failAt "INTERVAL requires a unit after the literal value" t.place
  else return .other ("INTERVAL " ++ value.text ++ (← unitRange))

end SelectBinding.Sql.Grammar
