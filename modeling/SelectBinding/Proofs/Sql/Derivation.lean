import SelectBinding.Proofs.Sql.Lowering
import SelectBinding.Proofs.Sql.Pieces
import SelectBinding.Proofs.Sql.Types

/-!
The grammar of expressions, as far as queries are written in it.

An expression is derived from tokens level by level, as it is read: what stands in parentheses,
after a sign or after an operator is derived one level further inside. An operand goes on as long as
the operators after it bind more tightly than the bound it is derived under; how tightly the
operator binds that comes next is part of every derivation.
-/

namespace SelectBinding

/-- How tightly an operator binds. -/
def BinaryOp.strength : BinaryOp → Nat
  | .multiply | .divide | .modulo | .concat => 40
  | .add | .subtract => 30
  | .xor => 24
  | .bitwiseAnd => 23
  | .bitwiseXor | .shiftLeft | .shiftRight => 22
  | .bitwiseOr => 21
  | .eq | .notEq | .lt | .ltEq | .gt | .gtEq | .isIn | .notIn => 20
  | .like | .notLike => 19
  | .and => 10
  | .or => 5

lemma BinaryOp.strength_pos (op : BinaryOp) : 0 < op.strength := by
  cases op <;> decide

lemma BinaryOp.strength_le (op : BinaryOp) : op.strength ≤ 40 := by
  cases op <;> decide

/-- Whether an operator asks about null, after its argument. -/
def UnaryOp.isQuestion (op : UnaryOp) : Bool :=
  op == .isNull || op == .isNotNull

namespace Sql.Grammar

/-- How tightly a question about null binds. -/
def nullStrength : Nat := 17

/-- How tightly the negation of a term binds. -/
def notStrength : Nat := 15

/-- How tightly a sign before a term binds. -/
def signStrength : Nat := 40

/-- The keyword as a token. -/
abbrev kw (word : String) : Token :=
  .word word none

/-- The words that are no names even where an operator or a comma follows. -/
def nameForms : List String :=
  ["TRUE", "FALSE", "NULL", "CURRENT_CATALOG", "CURRENT_USER", "SESSION_USER", "USER",
   "CURRENT_TIMESTAMP", "CURRENT_TIME", "CURRENT_DATE", "LOCALTIME", "LOCALTIMESTAMP", "CASE",
   "EXISTS", "INTERVAL", "ARRAY", "NOT", "STRUCT", "TRIM", "ALL", "ANY", "SOME"]

/-- The words that begin a form of their own, or a type, before a parenthesis. -/
def callForms : List String :=
  nameForms ++
    ["CONVERT", "TRY_CONVERT", "CAST", "TRY_CAST", "SAFE_CAST", "EXTRACT", "CEIL", "FLOOR",
     "POSITION", "SUBSTRING", "OVERLAY", "MATCH", "MAP"] ++ typeWords

/-- Whether the tokens begin as an argument does that has a name. -/
def beginsNamed : List Token → Bool
  | .sign _ :: _ => false
  | _ :: t :: _ => t.isKeyword "VALUE"
  | _ => false

section Derivation

variable (reserved : Reserved)

/-- A word is the part of a name: it stands in quotes, or it needs none. -/
inductive IsPart : Token → String → Prop where
  | quoted (value : String) : IsPart (.word value (some '"')) value
  | bare {value : String} (h : reserved.needsQuoting value = false) :
      IsPart (.word value none) value

/-- Parts with points between them. -/
inductive IsPath : List Token → List String → Prop where
  | last {t : Token} {part : String} (h : IsPart reserved t part) : IsPath [t] [part]
  | more {t : Token} {ts : List Token} {part : String} {parts : List String}
      (h : IsPart reserved t part) (hrest : IsPath ts parts) :
      IsPath (t :: .sign "." :: ts) (part :: parts)

/-- Things with commas between them. -/
inductive Listed {α : Type} (one : List Token → α → Prop) : List Token → List α → Prop where
  | last {ts : List Token} {a : α} (h : one ts a) : Listed one ts [a]
  | more {ts ts' : List Token} {a : α} {as : List α} (h : one ts a) (hrest : Listed one ts' as) :
      Listed one (ts ++ .sign "," :: ts') (a :: as)

/-- What a level of the grammar derives: under a bound, and before an operator that binds so
tightly, an expression from tokens. -/
abbrev Level := Nat → Nat → List Token → Expr → Prop

variable (inner : Level)

/-- An argument of a call. It does not begin as an argument does that has a name. -/
inductive IsArgument : List Token → Expr → Prop where
  | term {ts : List Token} {e : Expr} (h : inner 0 0 ts e) (hname : beginsNamed ts = false) :
      IsArgument ts e
  | asterisk : IsArgument [.sign "*"] (.var ⟨["*"], none, none⟩)
  | qualified {ts : List Token} {parts : List String} (h : IsPath reserved ts parts) :
      IsArgument (ts ++ [.sign ".", .sign "*"]) (.var ⟨parts ++ ["*"], none, none⟩)

/-- An operand without the signs before it. -/
inductive IsPrimary : List Token → Expr → Prop where
  | null : IsPrimary [kw "NULL"] (.const .null)
  | yes : IsPrimary [kw "TRUE"] (.const (.boolean true))
  | no : IsPrimary [kw "FALSE"] (.const (.boolean false))
  | number {spelling : String} {value : Constant}
      (h : Reading.numberValue spelling = .ok value) :
      IsPrimary [.number spelling false] (.const value)
  | text (value : String) : IsPrimary [.string .plain value] (.const (.text value))
  | name {t : Token} {ts : List Token} {parts : List String} (h : IsPath reserved (t :: ts) parts)
      (hform : t.isOneOf nameForms = false) : IsPrimary (t :: ts) (.var ⟨parts, none, none⟩)
  | emptyCall {name : String} (hname : IsPart reserved (.word name none) name)
      (hform : Token.isOneOf callForms (.word name none) = false) :
      IsPrimary [.word name none, .sign "(", .sign ")"] (.call (Reading.callKind name) name [])
  | call {name : String} {ts : List Token} {args : List Expr}
      (hname : IsPart reserved (.word name none) name)
      (hform : Token.isOneOf callForms (.word name none) = false)
      (h : Listed (IsArgument reserved inner) ts args) :
      IsPrimary (.word name none :: .sign "(" :: (ts ++ [.sign ")"]))
        (.call (Reading.callKind name) name args)
  | nested {ts : List Token} {e : Expr} (h : inner 0 0 ts e) :
      IsPrimary (.sign "(" :: (ts ++ [.sign ")"])) e

/-- An operand before an operator that binds as tightly as `next` says. -/
inductive IsOperand (next : Nat) : List Token → Expr → Prop where
  | primary {ts : List Token} {e : Expr} (h : IsPrimary reserved inner ts e) : IsOperand next ts e
  | plus {ts : List Token} {e : Expr} (h : inner signStrength next ts e) :
      IsOperand next (.sign "+" :: ts) (.unary .plus e)
  | minus {ts : List Token} {e : Expr} (h : inner signStrength next ts e) :
      IsOperand next (.sign "-" :: ts) (.unary .minus e)
  | not {ts : List Token} {e : Expr} (h : inner notStrength next ts e) :
      IsOperand next (kw "NOT" :: ts) (.unary .not e)

/-- How an expression goes on under a bound: how tightly the next operator binds, the expression so
far, the tokens that follow and the expression that comes of them. `follow` is how tightly the
operator binds after all of it. -/
inductive Continues (bound follow : Nat) : Nat → Expr → List Token → Expr → Prop where
  | done {e : Expr} (h : follow ≤ bound) : Continues bound follow follow e [] e
  | isNull {next : Nat} {e e' : Expr} {ts : List Token} (h : bound < nullStrength)
      (hmore : Continues bound follow next (.unary .isNull e) ts e') :
      Continues bound follow nullStrength e (kw "IS" :: kw "NULL" :: ts) e'
  | isNotNull {next : Nat} {e e' : Expr} {ts : List Token} (h : bound < nullStrength)
      (hmore : Continues bound follow next (.unary .isNotNull e) ts e') :
      Continues bound follow nullStrength e (kw "IS" :: kw "NOT" :: kw "NULL" :: ts) e'
  | operation {next : Nat} {op : BinaryOp} {e e' right : Expr} {ts ts' : List Token}
      (hop : op.asksMembership = false) (h : bound < op.strength)
      (hright : inner op.strength next ts right)
      (hmore : Continues bound follow next (.operation e op right) ts' e') :
      Continues bound follow op.strength e (op.tokens ++ (ts ++ ts')) e'
  | membership {next : Nat} {op : BinaryOp} {e e' : Expr} {ts ts' : List Token} {items : List Expr}
      (hop : op.asksMembership = true) (h : bound < op.strength)
      (hitems : Listed (inner 0 0) ts items)
      (hmore : Continues bound follow next (.operation e op (.list items)) ts' e') :
      Continues bound follow op.strength e
        (op.tokens ++ .sign "(" :: (ts ++ .sign ")" :: ts')) e'

/-- An expression under a bound. -/
inductive Above (bound follow : Nat) : List Token → Expr → Prop where
  | mk {next : Nat} {ts ts' : List Token} {e e' : Expr} (h : IsOperand reserved inner next ts e)
      (hmore : Continues inner bound follow next e ts' e') : Above bound follow (ts ++ ts') e'

end Derivation

/-- What so many levels of the grammar derive. -/
def derives (reserved : Reserved) : Nat → Level
  | 0 => fun _ _ _ _ => False
  | depth + 1 => Above reserved (derives reserved depth)

end Sql.Grammar

end SelectBinding
