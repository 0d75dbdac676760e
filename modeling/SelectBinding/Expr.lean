import SelectBinding.Decimal.Binary64
import SelectBinding.Name

/-!
Expressions, as a statement writes them and as name resolution completes them.

A variable starts unbound. Resolving it sets its binding and changes nothing else, so an expression
keeps its spelling and its shape through name resolution.
-/

namespace SelectBinding

open Decimal (Binary64)

/-- A literal value. Whole numbers are those of a signed word of 64 bits. -/
inductive Constant where
  | null
  | boolean (value : Bool)
  | integer (value : Int)
  | real (value : Binary64)
  | text (value : String)
deriving Repr

namespace Constant

/-- Equality of values, under which a real number compares as a number. -/
def same : Constant → Constant → Bool
  | .null, .null => true
  | .boolean a, .boolean b => a == b
  | .integer a, .integer b => a == b
  | .real a, .real b => a == b
  | .text a, .text b => a == b
  | _, _ => false

end Constant

/-- An operator with one argument, before it or after it. -/
inductive UnaryOp where
  | plus
  | minus
  | not
  | bitwiseNot
  | isNull
  | isNotNull
deriving Repr, DecidableEq

/-- What an operator with two arguments is about. -/
inductive Family where
  | arithmetic
  | relational
  | logical
deriving Repr, DecidableEq

/-- An operator between two arguments. -/
inductive BinaryOp where
  | add
  | subtract
  | multiply
  | divide
  | modulo
  | concat
  | bitwiseAnd
  | bitwiseOr
  | bitwiseXor
  | shiftLeft
  | shiftRight
  | eq
  | notEq
  | lt
  | ltEq
  | gt
  | gtEq
  | like
  | notLike
  | isIn
  | notIn
  | and
  | or
  | xor
deriving Repr, DecidableEq

namespace BinaryOp

/-- The family an operator belongs to. -/
def family : BinaryOp → Family
  | .add | .subtract | .multiply | .divide | .modulo | .concat | .bitwiseAnd | .bitwiseOr
  | .bitwiseXor | .shiftLeft | .shiftRight => .arithmetic
  | .eq | .notEq | .lt | .ltEq | .gt | .gtEq | .like | .notLike | .isIn | .notIn => .relational
  | .and | .or | .xor => .logical

/-- The operator as a statement spells it. -/
def symbol : BinaryOp → String
  | .add => "+"
  | .subtract => "-"
  | .multiply => "*"
  | .divide => "/"
  | .modulo => "%"
  | .concat => "||"
  | .bitwiseAnd => "&"
  | .bitwiseOr => "|"
  | .bitwiseXor => "^"
  | .shiftLeft => "<<"
  | .shiftRight => ">>"
  | .eq => "="
  | .notEq => "<>"
  | .lt => "<"
  | .ltEq => "<="
  | .gt => ">"
  | .gtEq => ">="
  | .like => "LIKE"
  | .notLike => "NOT LIKE"
  | .isIn => "IN"
  | .notIn => "NOT IN"
  | .and => "AND"
  | .or => "OR"
  | .xor => "XOR"

/-- Whether the operator asks for membership, so that a list may stand on its right. -/
def asksMembership : BinaryOp → Bool
  | .isIn | .notIn => true
  | _ => false

/-- Whether a statement has nothing but the operator between two terms. Those on patterns and on
lists are part of a longer form. -/
def standsAlone : BinaryOp → Bool
  | .like | .notLike | .isIn | .notIn => false
  | _ => true

end BinaryOp

/-- What a name stands for, tables being counted by their place after `FROM`. -/
inductive Binding where
  | field (position : Nat) (field : String)
  | tableAsterisk (position : Nat)
  | allTables
deriving Repr, DecidableEq

namespace Binding

/-- The place of the table the name is bound to, if it is bound to one. -/
def position? : Binding → Option Nat
  | .field position _ => some position
  | .tableAsterisk position => some position
  | .allTables => none

/-- The binding after `move` has renumbered the tables. -/
def mapPosition (move : Nat → Nat) : Binding → Binding
  | .field position name => .field (move position) name
  | .tableAsterisk position => .tableAsterisk (move position)
  | .allTables => .allTables

end Binding

/-- A name in an expression: `f`, `t.f`, `*` or `t.*`, part by part and without quotes. -/
structure Variable where
  parts : List String
  /-- Where the name starts in the statement, counted in characters. -/
  position : Option Nat := none
  /-- What the name stands for, once it has been resolved. -/
  binding : Option Binding := none
deriving Repr, DecidableEq

namespace Variable

/-- The unbound variable with a dotted name. -/
def named (name : String) : Variable :=
  ⟨Name.dottedParts name, none, none⟩

/-- The parts joined with dots, as messages show them. -/
def name (v : Variable) : String :=
  Name.dotted v.parts

/-- The part before the last one. -/
def qualifier? (v : Variable) : Option String :=
  match v.parts.reverse with
  | _ :: qualifier :: _ => some qualifier
  | _ => none

/-- The last part, which names the field. -/
def fieldName (v : Variable) : String :=
  v.parts.getLast?.getD ""

/-- Whether the name is `*` or `t.*`. -/
def isAsterisk (v : Variable) : Bool :=
  v.fieldName == "*"

end Variable

/-- The two kinds of calls. -/
inductive CallKind where
  | function
  | aggregate
deriving Repr, DecidableEq

/-- An expression. -/
inductive Expr where
  | const (value : Constant)
  | var (v : Variable)
  | unary (op : UnaryOp) (arg : Expr)
  /-- The family is that of the operator, except in trees put together by hand. -/
  | binary (family : Family) (op : BinaryOp) (left right : Expr)
  | call (kind : CallKind) (name : String) (args : List Expr)
  /-- An expression under a name, which is expected to be a variable of one part. -/
  | underName (expr name : Expr) (explicitAs : Bool)
  | list (args : List Expr)
deriving Repr, Inhabited

namespace Expr

/-- The operation `op` on two arguments, filed under the family of its operator. -/
def operation (left : Expr) (op : BinaryOp) (right : Expr) : Expr :=
  .binary op.family op left right

/-- The variable with a dotted name. -/
def named (name : String) : Expr :=
  .var (.named name)

/-- An expression under a name, written with `AS`. -/
def aliased (expr : Expr) (name : String) : Expr :=
  .underName expr (.var ⟨[name], none, none⟩) true

/-- The direct parts of an expression, from left to right. -/
def children : Expr → List Expr
  | .const _ | .var _ => []
  | .unary _ arg => [arg]
  | .binary _ _ left right => [left, right]
  | .call _ _ args => args
  | .underName expr name _ => [expr, name]
  | .list args => args

/-- Whether the expression is an operation between two arguments. -/
def isOperation : Expr → Bool
  | .binary .. => true
  | _ => false

/-- Whether the expression is a list. -/
def isList : Expr → Bool
  | .list _ => true
  | _ => false

mutual

/-- Every variable of an expression, from left to right. -/
def allVariables : Expr → List Variable
  | .const _ => []
  | .var v => [v]
  | .unary _ arg => arg.allVariables
  | .binary _ _ left right => left.allVariables ++ right.allVariables
  | .call _ _ args => variablesOfAll args
  | .underName expr name _ => expr.allVariables ++ name.allVariables
  | .list args => variablesOfAll args

/-- Every variable of a list of expressions. -/
def variablesOfAll : List Expr → List Variable
  | [] => []
  | arg :: rest => arg.allVariables ++ variablesOfAll rest

end

mutual

/-- The expression with each of its variables changed by `change`. -/
def mapVariables (change : Variable → Variable) : Expr → Expr
  | .const value => .const value
  | .var v => .var (change v)
  | .unary op arg => .unary op (arg.mapVariables change)
  | .binary family op left right =>
    .binary family op (left.mapVariables change) (right.mapVariables change)
  | .call kind name args => .call kind name (mapVariablesOfAll change args)
  | .underName expr name explicitAs =>
    .underName (expr.mapVariables change) (name.mapVariables change) explicitAs
  | .list args => .list (mapVariablesOfAll change args)

/-- A list of expressions with each of their variables changed. -/
def mapVariablesOfAll (change : Variable → Variable) : List Expr → List Expr
  | [] => []
  | arg :: rest => arg.mapVariables change :: mapVariablesOfAll change rest

end

mutual

/-- Equality of expressions, bindings and positions included. -/
def same : Expr → Expr → Bool
  | .const a, .const b => a.same b
  | .var a, .var b => a == b
  | .unary op a, .unary op' a' => op == op' && a.same a'
  | .binary family op l r, .binary family' op' l' r' =>
    family == family' && op == op' && l.same l' && r.same r'
  | .call kind name args, .call kind' name' args' =>
    kind == kind' && name == name' && sameAll args args'
  | .underName e n as, .underName e' n' as' => e.same e' && n.same n' && as == as'
  | .list args, .list args' => sameAll args args'
  | _, _ => false

/-- Equality of lists of expressions. -/
def sameAll : List Expr → List Expr → Bool
  | [], [] => true
  | a :: as, b :: bs => a.same b && sameAll as bs
  | _, _ => false

end

/-- Whether some variable of the expression is bound to the table at `position`. -/
def refersTo (e : Expr) (position : Nat) : Bool :=
  e.allVariables.any fun v => v.binding.bind Binding.position? == some position

/-- The expression after `move` has renumbered the tables. -/
def mapPositions (move : Nat → Nat) (e : Expr) : Expr :=
  e.mapVariables fun v => { v with binding := v.binding.map (Binding.mapPosition move) }

end Expr

end SelectBinding
