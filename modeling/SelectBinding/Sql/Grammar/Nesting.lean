import SelectBinding.Sql.Grammar.Names

/-!
Expressions and queries contain one another. A parser of one level of a statement is given the
parsers of the level inside it, so that every level is finished before the one around it and the
depth of a statement is bounded.
-/

namespace SelectBinding.Sql.Grammar

open Sql.Parser

/-- The parsers of the level inside. -/
structure Inner where
  /-- A term that ends before the first operator that binds no more tightly than the number says. -/
  termAbove : Nat → Parser Term
  query : Parser QueryTree

namespace Inner

/-- The level inside the innermost one. -/
def tooDeep : Inner :=
  ⟨fun _ => failWith .tooDeep, failWith .tooDeep⟩

/-- A term. -/
def term (inner : Inner) : Parser Term :=
  inner.termAbove 0

/-- The text of a term. -/
def termText (inner : Inner) : Parser String :=
  return (← inner.term).text

/-- The texts of terms with commas between them. -/
def termTexts (inner : Inner) : Parser (List String) :=
  commaSeparated inner.termText

/-- The text of a query. -/
def queryText (inner : Inner) : Parser String :=
  return (← inner.query).text

end Inner

/-- Whether a query starts here, other than one in parentheses. -/
def queryAhead : Parser Bool := do
  return (← peek).token.isOneOf ["SELECT", "WITH"]

/-- A text in parentheses. -/
def inParentheses (text : String) : String :=
  "(" ++ text ++ ")"

/-- A term whose text is all that is kept of it, with words before it. -/
def wordsAndTerm (inner : Inner) (word : String) : Parser String := do
  if ← keyword word then return " " ++ word ++ " " ++ (← inner.termText) else return ""

end SelectBinding.Sql.Grammar
