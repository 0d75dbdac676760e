import SelectBinding.Expr
import SelectBinding.Reserved
import SelectBinding.Decimal.Shortest

/-!
The text of an expression.

An operation that is an argument of another one is put in parentheses, so reading the text back
gives the tree it was written from whatever binds tighter. Names are quoted where a dictionary of
reserved words or the grammar asks for it.
-/

namespace SelectBinding

/-- A text in single quotes, each single quote inside it written twice. -/
def Constant.textLiteral (value : String) : String :=
  "'" ++ String.ofList (value.toList.flatMap fun c => if c = '\'' then ['\'', '\''] else [c]) ++ "'"

/-- A literal as a statement spells it. -/
def Constant.render : Constant → String
  | .null => "NULL"
  | .boolean true => "TRUE"
  | .boolean false => "FALSE"
  | .integer value => toString value
  | .real value => value.text
  | .text value => textLiteral value

/-- A name as a statement spells it, part by part. -/
def Variable.render (reserved : Reserved) (v : Variable) : String :=
  Name.dotted (v.parts.map fun part => if part == "*" then part else reserved.quote part)

/-- The spelling of an operator and its one argument. -/
def UnaryOp.render (op : UnaryOp) (arg : String) : String :=
  match op with
  | .plus => "+" ++ arg
  | .minus => "-" ++ arg
  | .not => "NOT " ++ arg
  | .bitwiseNot => "~" ++ arg
  | .isNull => arg ++ " IS NULL"
  | .isNotNull => arg ++ " IS NOT NULL"

namespace Expr

/-- A text in parentheses, if it has to stand in them. -/
def enclosed (needed : Bool) (text : String) : String :=
  if needed then "(" ++ text ++ ")" else text

/-- Whether an expression needs parentheses on the right of `op`: an operation always, and a list
in a question of membership. -/
def enclosedAfter (op : BinaryOp) (right : Expr) : Bool :=
  right.isOperation || (op.asksMembership && right.isList)

mutual

/-- The text of an expression. -/
def render (reserved : Reserved) : Expr → String
  | .const value => value.render
  | .var v => v.render reserved
  | .unary op arg => op.render (enclosed arg.isOperation (arg.render reserved))
  | .binary _ op left right =>
    enclosed left.isOperation (left.render reserved) ++ " " ++ op.symbol ++ " " ++
      enclosed (enclosedAfter op right) (right.render reserved)
  | .call _ name args => name ++ "(" ++ renderAll reserved args ++ ")"
  | .underName expr name explicitAs =>
    expr.render reserved ++ (if explicitAs then " AS " else " ") ++ name.render reserved
  | .list args => renderAll reserved args

/-- The texts of a list of expressions, separated by commas. -/
def renderAll (reserved : Reserved) : List Expr → String
  | [] => ""
  | [arg] => arg.render reserved
  | arg :: rest => arg.render reserved ++ ", " ++ renderAll reserved rest

end

/-- The text of an expression under the words that are always reserved. -/
def text (e : Expr) : String :=
  e.render .builtin

end Expr

end SelectBinding
