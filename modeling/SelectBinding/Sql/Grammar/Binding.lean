import SelectBinding.Sql.Parser

/-!
How tightly operators bind their terms, as numbers; the higher the number, the more tightly. What
is no operator has the number 0.
-/

namespace SelectBinding.Sql.Grammar

open Sql.Parser

/-- Groups of operators that bind equally tightly. -/
inductive OperatorGroup where
  | conversion
  | subscript
  | collation
  | timeZone
  | product
  | sum
  | exclusiveOr
  | bitwiseAnd
  | caret
  | bitwiseOr
  | membership
  | comparison
  | pattern
  | is
  /-- Operators on documents, ranges and other types, and those that a user defined. -/
  | special
  | concatenation
  | shift
  | not
  | and
  | or
deriving Repr, DecidableEq

namespace OperatorGroup

/-- How tightly a group binds in most dialects. -/
def usualBinding : OperatorGroup → Nat
  | .conversion => 50
  | .subscript => 50
  | .collation => 0
  | .timeZone => 41
  | .product => 40
  | .concatenation => 40
  | .sum => 30
  | .exclusiveOr => 24
  | .bitwiseAnd => 23
  | .caret => 22
  | .shift => 22
  | .bitwiseOr => 21
  | .membership => 20
  | .comparison => 20
  | .pattern => 19
  | .is => 17
  | .special => 16
  | .not => 15
  | .and => 10
  | .or => 5

/-- How tightly a group binds in the PostgreSQL dialect. -/
def postgresBinding : OperatorGroup → Nat
  | .conversion => 140
  | .subscript => 130
  | .collation => 120
  | .timeZone => 110
  | .caret => 100
  | .product => 90
  | .sum => 80
  | .exclusiveOr => 75
  | .bitwiseAnd => 70
  | .bitwiseOr => 70
  | .special => 70
  | .concatenation => 70
  | .shift => 70
  | .membership => 60
  | .pattern => 60
  | .comparison => 50
  | .is => 40
  | .not => 30
  | .and => 20
  | .or => 10

/-- How tightly a group binds. -/
def binding (group : OperatorGroup) (dialect : Dialect) : Nat :=
  if dialect = .postgres then group.postgresBinding else group.usualBinding

end OperatorGroup

/-- The group of an operator that is a sign. -/
def signGroup (dialect : Dialect) (spelling : String) : Option OperatorGroup :=
  match spelling with
  | "=" | "<" | "<=" | "<>" | ">" | ">=" | "==" | "<=>" => some .comparison
  | "~" | "~*" | "!~" | "!~*" | "~~" | "~~*" | "!~~" | "!~~*" => some .comparison
  | "|" => some .bitwiseOr
  | "^" => some .caret
  | "#" | "<<" | ">>" => some .shift
  | "&" => some .bitwiseAnd
  | "+" | "-" => some .sum
  | "*" | "/" | "//" | "%" => some .product
  | "||" => some .concatenation
  | "::" => some .conversion
  | "[" => some .subscript
  | "!" | "&&" | "^@" => some (if dialect = .postgres then .special else .conversion)
  | "->" | "->>" | "#>" | "#>>" | "@>" | "<@" | "#-" | "@?" | "@@" | "?" | "?&" | "?|" =>
    some .special
  | _ => none

/-- The group of `NOT` between two terms, which the word after it decides. -/
def negatedGroup (after : Token) : Option OperatorGroup :=
  if after.isOneOf ["IN", "BETWEEN"] then some .membership
  else if after.isOneOf ["LIKE", "ILIKE", "RLIKE", "REGEXP", "SIMILAR"] then some .pattern
  else none

/-- The group of an operator that is a word. The two words after it may decide. -/
def wordGroup (word : String) (second third : Token) : Option OperatorGroup :=
  match word with
  | "OR" => some .or
  | "AND" => some .and
  | "XOR" => some .exclusiveOr
  | "AT" => if second.isKeyword "TIME" && third.isKeyword "ZONE" then some .timeZone else none
  | "NOT" => negatedGroup second
  | "IS" => some .is
  | "IN" | "BETWEEN" | "OPERATOR" => some .membership
  | "LIKE" | "ILIKE" | "RLIKE" | "REGEXP" | "SIMILAR" => some .pattern
  | "DIV" => some .product
  | "COLLATE" => some .collation
  | _ => none

/-- The group of the operator that comes next. -/
def nextGroup (dialect : Dialect) : Parser (Option OperatorGroup) := do
  let t := (← peek).token
  let second := (← peekAt 1).token
  let third := (← peekAt 2).token
  match t with
  | .word _ _ => return t.keyword?.bind fun word => wordGroup word second third
  | .sign spelling => return signGroup dialect spelling
  | .userOperator _ => return some .special
  | _ => return none

/-- How tightly the operator binds that comes next. -/
def nextBinding : Parser Nat := do
  let dialect ← dialect
  return ((← nextGroup dialect).map (·.binding dialect)).getD 0

/-- How tightly a group binds in the dialect at hand. -/
def bindingOf (group : OperatorGroup) : Parser Nat :=
  return group.binding (← dialect)

end SelectBinding.Sql.Grammar
