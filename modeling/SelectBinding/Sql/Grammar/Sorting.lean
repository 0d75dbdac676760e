import SelectBinding.Sql.Grammar.Nesting

/-!
What comes after `ORDER BY`.
-/

namespace SelectBinding.Sql.Grammar

open Sql.Parser

/-- How gaps between sorted rows are filled. -/
def filling (inner : Inner) : Parser String := do
  let first ← wordsAndTerm inner "FROM"
  let last ← wordsAndTerm inner "TO"
  let step ← wordsAndTerm inner "STEP"
  return "WITH FILL" ++ first ++ last ++ step

/-- A direction of sorting. -/
def direction : Parser (Option Bool) := do
  if ← keyword "ASC" then return some true
  else if ← keyword "DESC" then return some false
  else return none

/-- Whether rows without a value come first. -/
def placeOfNulls : Parser (Option Bool) := do
  if ← keywords ["NULLS", "FIRST"] then return some true
  else if ← keywords ["NULLS", "LAST"] then return some false
  else return none

/-- A sorting criterion. -/
def sortTerm (inner : Inner) : Parser SortTerm := do
  let term ← inner.term
  let ascending ← direction
  let nullsFirst ← placeOfNulls
  let withFill ←
    if ← onlyIn [.ansi] (keywords ["WITH", "FILL"]) then some <$> filling inner else pure none
  return { term, ascending, nullsFirst, withFill }

/-- Sorting criteria. -/
def sortTerms (inner : Inner) : Parser (List SortTerm) :=
  commaSeparated (sortTerm inner)

/-- The texts of sorting criteria. -/
def sortTexts (inner : Inner) : Parser (List String) :=
  return (← sortTerms inner).map SortTerm.text

/-- How a column gets its values in rows that fill gaps. -/
def interpolation (inner : Inner) : Parser String := do
  let column ← identifier
  return column.text ++ (← wordsAndTerm inner "AS")

/-- How columns get their values in rows that fill gaps. -/
def interpolations (inner : Inner) : Parser (Option String) := do
  if ← onlyIn [.ansi] (keyword "INTERPOLATE") then
    if ← sign "(" then
      let columns ← commaSeparatedUpTo ")" (interpolation inner)
      expectSign ")"
      return some ("INTERPOLATE " ++ inParentheses (commas columns))
    else return some "INTERPOLATE"
  else return none

/-- The sorting of a query, perhaps none. -/
def optionalSorting (inner : Inner) : Parser (Option Sorting) := do
  if ← keywords ["ORDER", "BY"] then
    let terms ← sortTerms inner
    let interpolate ← interpolations inner
    return some { terms, interpolate }
  else return none

end SelectBinding.Sql.Grammar
