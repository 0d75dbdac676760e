import SelectBinding.Proofs.Sql.Derivation

/-!
The tokens that the text of an expression is made of, and the expressions whose text can be read.

Not every text of an expression says what the expression is. A word that has a form of its own, a
minus before another one, a number that is not finite or a function whose name needs quotes would be
read as something else, or not at all; and so would something with too many levels inside.
-/

namespace SelectBinding

open Sql Sql.Grammar

/-! ### Tokens -/

/-- The token of a name as it is written. -/
def Reserved.token (reserved : Reserved) (name : String) : Token :=
  .word name (if reserved.needsQuoting name then some '"' else none)

/-- The token of a part of a variable. -/
def Reserved.partToken (reserved : Reserved) (part : String) : Token :=
  if part == "*" then .sign "*" else reserved.token part

/-- Tokens of parts with points between them. -/
def Reserved.dottedTokens (reserved : Reserved) : List String → List Token
  | [] => []
  | [part] => [reserved.partToken part]
  | part :: rest => reserved.partToken part :: .sign "." :: reserved.dottedTokens rest

/-- Tokens of several things with commas between them. -/
def listed : List (List Token) → List Token
  | [] => []
  | [ts] => ts
  | ts :: rest => ts ++ .sign "," :: listed rest

/-- Tokens in parentheses, if they have to stand in them. -/
def enclosedTokens (needed : Bool) (ts : List Token) : List Token :=
  if needed then .sign "(" :: (ts ++ [.sign ")"]) else ts

/-- The token of a literal. -/
def Constant.token : Constant → Token
  | .null => kw "NULL"
  | .boolean true => kw "TRUE"
  | .boolean false => kw "FALSE"
  | .integer value => .number (toString value) false
  | .real value => .number value.text false
  | .text value => .string .plain value

/-- The tokens of an operator and its one argument. -/
def UnaryOp.tokens (op : UnaryOp) (ts : List Token) : List Token :=
  match op with
  | .plus => .sign "+" :: ts
  | .minus => .sign "-" :: ts
  | .not => kw "NOT" :: ts
  | .bitwiseNot => .sign "~" :: ts
  | .isNull => ts ++ [kw "IS", kw "NULL"]
  | .isNotNull => ts ++ [kw "IS", kw "NOT", kw "NULL"]

namespace Expr

variable (reserved : Reserved)

mutual

/-- The tokens of an expression. -/
def tokens : Expr → List Token
  | .const value => [value.token]
  | .var v => reserved.dottedTokens v.parts
  | .unary op arg => op.tokens (enclosedTokens arg.isOperation arg.tokens)
  | .binary _ op left right =>
    enclosedTokens left.isOperation left.tokens ++
      (op.tokens ++ enclosedTokens (enclosedAfter op right) right.tokens)
  | .call _ name args => .word name none :: .sign "(" :: (listed (tokensOfAll args) ++ [.sign ")"])
  | .underName expr _ _ => expr.tokens
  | .list args => listed (tokensOfAll args)

/-- The tokens of each expression of a list. -/
def tokensOfAll : List Expr → List (List Token)
  | [] => []
  | arg :: rest => arg.tokens :: tokensOfAll rest

end

/-! ### What can be read -/

end Expr

/-- Whether the text of a literal is read as that literal. -/
def Constant.legible : Constant → Bool
  | .integer value => 0 ≤ value && value ≤ Decimal.greatestInt64
  | .real value =>
    Tokenizer.isNumeral value.text.toList && decide (Decimal.int64? value.text = none) &&
      decide (Decimal.real? value.text = some value)
  | _ => true

/-- Whether a name is written in a way that it may stand at the beginning of a term. -/
def Reserved.mayBegin (reserved : Reserved) (name : String) : Bool :=
  !(reserved.token name).isOneOf nameForms

/-- Whether the name of a function is read as one. -/
def Reserved.mayCall (reserved : Reserved) (name : String) : Bool :=
  !reserved.needsQuoting name && !Token.isOneOf callForms (.word name none)

/-- Whether the text of a variable is read as one. -/
def Variable.legible (reserved : Reserved) (v : Variable) : Bool :=
  v.parts.head?.any reserved.mayBegin && v.parts.dropLast.all (· != "*")

namespace Expr

variable (reserved : Reserved)

mutual

/-- Whether the text of an expression is read as some expression with the same operands, which may
be an asterisk only where `asterisk` says so. -/
def legible (asterisk : Bool) : Expr → Bool
  | .const value => value.legible
  | .var v => v.legible reserved && (asterisk || !v.isAsterisk)
  | .unary op arg =>
    arg.legible false && !arg.isList && op != .bitwiseNot &&
      !(op == .minus && (enclosedTokens arg.isOperation (arg.tokens reserved)).head? == some (.sign "-"))
  | .binary family op left right =>
    family == op.family && left.legible false && !left.isList && right.legible false &&
      right.isList == op.asksMembership
  | .call kind name args =>
    kind == Reading.callKind name && reserved.mayCall name && legibleAll true args &&
      (tokensOfAll reserved args).all fun ts => !beginsNamed ts
  | .underName _ _ _ => false
  | .list args => !args.isEmpty && legibleAll false args

/-- Whether each expression of a list is legible and none of them is a list. -/
def legibleAll (asterisk : Bool) : List Expr → Bool
  | [] => true
  | arg :: rest => arg.legible asterisk && !arg.isList && legibleAll asterisk rest

end

/-- How many signs stand in front of an operand. -/
def signs : Expr → Nat
  | .unary op arg => (if op.isQuestion then 0 else 1) + arg.signs
  | _ => 0

mutual

/-- How many levels the text of an expression needs. -/
def levels : Expr → Nat
  | .const _ | .var _ => 1
  | .unary op arg =>
    (if op.isQuestion then 0 else 1) +
      (arg.levels + if arg.isOperation then 1 else 0)
  | .binary _ _ left right =>
    max (left.levels + if left.isOperation then 1 else 0)
      (left.signs + 1 + (right.levels + if right.isOperation then 1 else 0))
  | .call _ _ args => levelsOfAll args + 1
  | .underName expr _ _ => expr.levels
  | .list args => levelsOfAll args

/-- How many levels the texts of the expressions of a list need at most. -/
def levelsOfAll : List Expr → Nat
  | [] => 0
  | arg :: rest => max arg.levels (levelsOfAll rest)

end

/-- How many levels the text of an expression needs where it is an operand. -/
def operandLevels (e : Expr) : Nat :=
  e.levels + if e.isOperation then 1 else 0

end Expr

end SelectBinding
