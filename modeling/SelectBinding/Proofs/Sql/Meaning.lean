import Mathlib.Tactic.TypeStar
import SelectBinding.Proofs.Sql.Shapes

/-!
What terms mean, and the expressions they are read as.

An interpretation says what names, literals, operators and functions mean, in a logic in which a
comparison may also be unknown. Under it a term has the value that the statement language gives it:
something lies between two bounds when it is at least the one and at most the other, a form with
`NOT` is the negation of the form without, and parentheses mean nothing. The expression that a term
is read as has the same value, so the comparisons that a range is taken apart into are the right
ones, also where one of them is unknown.
-/

namespace SelectBinding

/-! ### Truth values -/

/-- What a comparison comes to. With something that is not known it is unknown. -/
inductive Truth where
  | yes
  | no
  | unknown
deriving Repr, DecidableEq

namespace Truth

/-- The negation of what is unknown is unknown. -/
def not : Truth → Truth
  | .yes => .no
  | .no => .yes
  | .unknown => .unknown

/-- A conjunction fails as soon as one side does, even if the other one is unknown. -/
def and : Truth → Truth → Truth
  | .no, _ | _, .no => .no
  | .yes, .yes => .yes
  | _, _ => .unknown

/-- A disjunction holds as soon as one side does, even if the other one is unknown. -/
def or : Truth → Truth → Truth
  | .yes, _ | _, .yes => .yes
  | .no, .no => .no
  | _, _ => .unknown

/-- A conjunction is refuted by refuting one side. -/
lemma not_and (p q : Truth) : (p.and q).not = p.not.or q.not := by
  cases p <;> cases q <;> rfl

end Truth

/-! ### Interpretations -/

/-- What names, literals, operators and functions mean, with the values `V`. Negation, conjunction
and disjunction are those of truth values, and the comparisons that say the opposite of one another
are negations of one another. -/
structure Interpretation (V : Type*) where
  /-- A truth value as a value. -/
  truth : Truth → V
  constant : Constant → V
  /-- A name by its parts; an asterisk is the name `*`. -/
  name : List String → V
  list : List V → V
  unary : UnaryOp → V → V
  binary : BinaryOp → V → V → V
  function : String → List V → V
  /-- Whatever queries do not have, by its text. -/
  other : String → V
  unary_not : ∀ p, unary .not (truth p) = truth p.not
  binary_and : ∀ p q, binary .and (truth p) (truth q) = truth (p.and q)
  binary_or : ∀ p q, binary .or (truth p) (truth q) = truth (p.or q)
  relational : ∀ op : BinaryOp, op.family = .relational → ∀ a b, ∃ p, binary op a b = truth p
  lt_eq : ∀ a b, binary .lt a b = unary .not (binary .gtEq a b)
  gt_eq : ∀ a b, binary .gt a b = unary .not (binary .ltEq a b)
  notLike_eq : ∀ a b, binary .notLike a b = unary .not (binary .like a b)
  notIn_eq : ∀ a b, binary .notIn a b = unary .not (binary .isIn a b)

namespace Sql

/-- Whether a call has nothing but its name and its arguments. -/
def CallArguments.isPlain : CallArguments → Bool
  | .absent => true
  | .query _ => false
  | .listed quantifier clauses => quantifier.isNone && clauses.isEmpty

/-- Whether a call is one of a function on its arguments, over no window and no selection of
rows. -/
def CallShape.isPlain (shape : CallShape) : Bool :=
  shape.arguments.isPlain && shape.parameters.isNone && shape.withinGroup.isEmpty &&
    shape.filter.isNone && shape.nullTreatment.isNone && shape.overWindow.isNone

end Sql

namespace Interpretation

open Sql

variable {V : Type*} (m : Interpretation V)

mutual

/-- The value of an expression. -/
def value : Expr → V
  | .const c => m.constant c
  | .var v => m.name v.parts
  | .unary op arg => m.unary op (value arg)
  | .binary _ op left right => m.binary op (value left) (value right)
  | .call _ name args => m.function name (values args)
  | .underName expr _ _ => value expr
  | .list args => m.list (values args)

/-- The values of several expressions. -/
def values : List Expr → List V
  | [] => []
  | arg :: rest => value arg :: values rest

end

/-- The value of a literal. A number that is whole and not too large is an integer. -/
def literal : Literal → V
  | .null => m.constant .null
  | .boolean b => m.constant (.boolean b)
  | .text s => m.constant (.text s)
  | .number spelling _ =>
    match Decimal.int64? spelling, Decimal.real? spelling with
    | some n, _ => m.constant (.integer n)
    | none, some x => m.constant (.real x)
    | none, none => m.other spelling
  | .other spelling => m.other spelling

/-- A value, or its negation. -/
def negatedIf (negated : Bool) (a : V) : V :=
  if negated then m.unary .not a else a

/-- Something is at least the one bound and at most the other. -/
def between (subject low high : V) : V :=
  m.binary .and (m.binary .gtEq subject low) (m.binary .ltEq subject high)

mutual

/-- The value of a term. -/
def termValue : Term → V
  | .name ident => m.name [ident.value]
  | .path idents => m.name (idents.map Ident.value)
  | .literal l => m.literal l
  | .nested t => termValue t
  | .unary .plus t => m.unary .plus (termValue t)
  | .unary .minus t => m.unary .minus (termValue t)
  | .unary .not t => m.unary .not (termValue t)
  | .unary .bitwiseNot t => m.unary .bitwiseNot (termValue t)
  | .unary op t => m.other (Term.unary op t).text
  | .isNull t => m.unary .isNull (termValue t)
  | .isNotNull t => m.unary .isNotNull (termValue t)
  | .binary left (.known op _) right => m.binary op (termValue left) (termValue right)
  | .binary left op right => m.other (Term.binary left op right).text
  | .like negated false left pattern none =>
    m.negatedIf negated (m.binary .like (termValue left) (termValue pattern))
  | .like negated any left pattern escape =>
    m.other (Term.like negated any left pattern escape).text
  | .inList left items negated =>
    m.negatedIf negated (m.binary .isIn (termValue left) (m.list (termValues items)))
  | .between subject negated low high =>
    m.negatedIf negated (m.between (termValue subject) (termValue low) (termValue high))
  | .call name shape args =>
    if shape.isPlain then m.function (Name.dotted (name.map Ident.value)) (argumentValues args)
    else m.other (Term.call name shape args).text
  | .subquery text | .aboutSubquery text | .other text => m.other text

/-- The values of several terms. -/
def termValues : List Term → List V
  | [] => []
  | t :: ts => termValue t :: termValues ts

/-- The values of the arguments of a call. -/
def argumentValues : List Argument → List V
  | [] => []
  | .term t :: args => termValue t :: argumentValues args
  | .wildcard :: args => m.name ["*"] :: argumentValues args
  | .qualifiedWildcard name :: args =>
    m.name (name.map Ident.value ++ ["*"]) :: argumentValues args
  | .named text :: args => m.other text :: argumentValues args

end

/-! ### Values of what is read -/

lemma value_operation (left : Expr) (op : BinaryOp) (right : Expr) :
    m.value (left.operation op right) = m.binary op (m.value left) (m.value right) := by
  simp only [Expr.operation, value]

/-- A negated comparison stands for the comparison that says the opposite. -/
lemma binary_negatedIf {op opposite : BinaryOp}
    (h : ∀ a b, m.binary opposite a b = m.unary .not (m.binary op a b)) (negated : Bool) (a b : V) :
    m.binary (if negated then opposite else op) a b = m.negatedIf negated (m.binary op a b) := by
  cases negated with
  | false => rfl
  | true => exact h a b

/-- Outside of two bounds is below the one or above the other, also if a bound is unknown. -/
lemma not_between (subject low high : V) :
    m.unary .not (m.between subject low high) =
      m.binary .or (m.binary .lt subject low) (m.binary .gt subject high) := by
  obtain ⟨p, hp⟩ := m.relational .gtEq rfl subject low
  obtain ⟨q, hq⟩ := m.relational .ltEq rfl subject high
  rw [between, m.lt_eq, m.gt_eq, hp, hq]
  simp only [m.unary_not, m.binary_and, m.binary_or, Truth.not_and]

/-- **Ranges.** The comparisons that a range is taken apart into say what the range says. -/
lemma value_range (negated : Bool) (subject low high : Expr) :
    m.value (Reading.range negated subject low high) =
      m.negatedIf negated (m.between (m.value subject) (m.value low) (m.value high)) := by
  cases negated with
  | false => simp [Reading.range, value_operation, negatedIf, between]
  | true => simp [Reading.range, value_operation, negatedIf, not_between]

/-- A literal that is taken has the value of its constant. -/
lemma literal_gives (l : Literal) :
    Gives (fun c => m.constant c = m.literal l) (Reading.constant l) := by
  cases l with
  | null => exact .ok rfl
  | boolean b => exact .ok rfl
  | text s => exact .ok rfl
  | number spelling long =>
    rw [Reading.constant, Reading.numberValue, literal]
    cases Decimal.int64? spelling with
    | some n => exact .ok rfl
    | none =>
      cases Decimal.real? spelling with
      | some x => exact .ok rfl
      | none => exact .error
  | other spelling => exact .error

end Interpretation

namespace Sql.Reading

variable (r : Reading)

/-! ### Calls -/

/-- Of a call that is taken nothing stands beside its parentheses. -/
lemma checkShape_gives (shape : CallShape) (start : Nat) :
    Gives (fun _ => shape.overWindow = none ∧ shape.filter = none ∧ shape.nullTreatment = none ∧
      shape.withinGroup = []) (r.checkShape shape start) := by
  intro _ h
  unfold checkShape at h
  split at h
  · cases h
  · split at h
    · cases h
    · split at h
      · cases h
      · split at h
        · cases h
        · simp_all

/-- Of a call that is taken the parentheses hold only its arguments. -/
lemma checkArguments_gives (shape : CallShape) (call name : String) (start : Nat) :
    Gives (fun _ => shape.parameters = none ∧ shape.arguments.isPlain = true)
      (r.checkArguments shape call name start) := by
  intro _ h
  unfold checkArguments at h
  split at h
  · cases h
  · next hparameters =>
    refine ⟨by simpa using hparameters, ?_⟩
    split at h
    · next hshape => rw [hshape, CallArguments.isPlain]
    · cases h
    · cases h
    · next clauses hshape =>
      split at h
      · next hclauses => simpa [hshape, CallArguments.isPlain] using hclauses
      · cases h

lemma isPlain_of_checks {shape : CallShape}
    (hbeside : shape.overWindow = none ∧ shape.filter = none ∧ shape.nullTreatment = none ∧
      shape.withinGroup = [])
    (hinside : shape.parameters = none ∧ shape.arguments.isPlain = true) :
    shape.isPlain = true := by
  simp [CallShape.isPlain, hbeside, hinside]

/-! ### Terms -/

variable {V : Type*} (m : Interpretation V)

lemma variableOf_value (idents : List Ident) :
    Gives (fun v => m.value (.var v) = m.name (idents.map Ident.value)) (r.variableOf idents) :=
  fun v h => congrArg m.name (r.variableOf_gives idents v h)

lemma asterisk_value (idents : List Ident) (place : Option Nat) :
    Gives (fun v => m.value (.var v) = m.name (idents.map Ident.value ++ ["*"]))
      (r.asterisk idents place) :=
  fun v h => congrArg m.name (r.asterisk_gives idents place v h)

lemma unaryOp_gives (op : UnaryOperator) (t : Term) :
    Gives (fun op' => m.termValue (.unary op t) = m.unary op' (m.termValue t)) (unaryOp op) := by
  cases op with
  | plus | minus | not | bitwiseNot => exact .ok (by simp only [Interpretation.termValue])
  | unknown spelling | trailing spelling => exact .error

lemma binaryOp_means (left : Term) (op : Operator) (right : Term) :
    Gives (fun op' => m.termValue (.binary left op right) =
      m.binary op' (m.termValue left) (m.termValue right)) (binaryOp op) := by
  cases op with
  | known op halone => exact .ok (by simp only [Interpretation.termValue])
  | unknown spelling => exact .error

mutual

/-- **Meaning.** A term that is taken has the value of the expression that it stands for. -/
lemma expr_value (select : Nat) (t : Term) :
    Gives (fun e => m.value e = m.termValue t) (r.expr select t) := by
  cases t with
  | name ident =>
    refine (r.variableOf_value m [ident]).bind fun v hv => .ok ?_
    rw [hv, Interpretation.termValue, List.map_cons, List.map_nil]
  | path idents =>
    refine (r.variableOf_value m idents).bind fun v hv => .ok ?_
    rw [hv, Interpretation.termValue]
  | literal l =>
    refine (m.literal_gives l).bind fun c hc => .ok ?_
    rw [Interpretation.value, Interpretation.termValue, hc]
  | nested t =>
    rw [Interpretation.termValue]
    exact expr_value select t
  | unary op t =>
    refine (unaryOp_gives m op t).bind fun op' hop => (expr_value select t).bind fun e he => .ok ?_
    rw [hop, Interpretation.value, he]
  | isNull t =>
    refine (expr_value select t).bind fun e he => .ok ?_
    rw [Interpretation.value, Interpretation.termValue, he]
  | isNotNull t =>
    refine (expr_value select t).bind fun e he => .ok ?_
    rw [Interpretation.value, Interpretation.termValue, he]
  | binary left op right =>
    refine (binaryOp_means m left op right).bind fun op' hop =>
      (expr_value select left).bind fun l hl => (expr_value select right).bind fun e he => .ok ?_
    rw [hop, m.value_operation, hl, he]
  | like negated any left pattern escape =>
    cases any with
    | true => exact .error
    | false =>
      cases escape with
      | some escape => exact .error
      | none =>
        refine (expr_value select left).bind fun l hl =>
          (expr_value select pattern).bind fun e he => .ok ?_
        rw [m.value_operation, m.binary_negatedIf m.notLike_eq, hl, he, Interpretation.termValue]
  | inList left items negated =>
    refine (expr_value select left).bind fun l hl =>
      (exprs_values select items).bind fun es hes => .ok ?_
    rw [m.value_operation, m.binary_negatedIf m.notIn_eq, hl, Interpretation.value, hes,
      Interpretation.termValue]
  | between subject negated low high =>
    refine (expr_value select subject).bind fun s hs => (expr_value select low).bind fun l hl =>
      (expr_value select high).bind fun h hh => .ok ?_
    rw [m.value_range, hs, hl, hh, Interpretation.termValue]
  | call name shape args =>
    refine (r.checkShape_gives shape _).bind fun _ hbeside =>
      (r.nameParts_gives name).bind fun parts hparts =>
      (r.checkArguments_gives shape _ _ _).bind fun _ hinside =>
      (arguments_values select _ args).bind fun es hes => .ok ?_
    rw [Interpretation.termValue, if_pos (isPlain_of_checks hbeside hinside), Interpretation.value,
      hparts, hes, Name.dotted]
  | subquery text => exact .error
  | aboutSubquery text => exact .error
  | other text => exact .error

lemma exprs_values (select : Nat) (ts : List Term) :
    Gives (fun es => m.values es = m.termValues ts) (r.exprs select ts) := by
  cases ts with
  | nil => exact .ok rfl
  | cons t ts =>
    refine (expr_value select t).bind fun e he => (exprs_values select ts).bind fun es hes =>
      .ok ?_
    rw [Interpretation.values, Interpretation.termValues, he, hes]

lemma arguments_values (select : Nat) (offsets : List Nat) (args : List Argument) :
    Gives (fun es => m.values es = m.argumentValues args) (r.arguments select offsets args) := by
  cases args with
  | nil => exact .ok rfl
  | cons arg args =>
    have hmore (e : Expr) (a : V) (he : m.value e = a) :
        Gives (fun es => m.values es = a :: m.argumentValues args)
          (do return e :: (← r.arguments select offsets.tail args)) := by
      refine (arguments_values select offsets.tail args).bind fun es hes => .ok ?_
      rw [Interpretation.values, he, hes]
    cases arg with
    | term t =>
      rw [Interpretation.argumentValues]
      exact (expr_value select t).bind fun e he => hmore e _ he
    | wildcard =>
      rw [Interpretation.argumentValues]
      exact Gives.bind (.map (r.asterisk_value m [] _)) fun e he => hmore e _ he
    | qualifiedWildcard name =>
      rw [Interpretation.argumentValues]
      exact Gives.bind (.map (r.asterisk_value m name _)) fun e he => hmore e _ he
    | named text => exact .error

end

end Sql.Reading

/-! ### An interpretation -/

namespace Truth

end Truth

namespace Interpretation

end Interpretation

namespace Sql.Reading

lemma standsAlone_or : BinaryOp.or.standsAlone = true := rfl

/-- The term `(x) NOT BETWEEN 1 AND NULL OR x NOT IN (7, NULL)`. -/
def guarded (x : Ident) : Term :=
  .binary (.between (.nested (.name x)) true (.literal (.number "1" false)) (.literal .null))
    (.known .or standsAlone_or)
    (.inList (.name x) [.literal (.number "7" false), .literal .null] true)

end Sql.Reading

end SelectBinding
