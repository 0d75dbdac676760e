import SelectBinding.Proofs.Outcome
import SelectBinding.Sql.Fragments

/-!
What terms stand for.

Where a name stands in a statement does not matter to what the term around it stands for, so terms
are compared with expressions whose variables know neither their places nor their bindings.
-/

namespace SelectBinding

/-- The variable without its place and its binding. -/
def Variable.bare (v : Variable) : Variable :=
  ⟨v.parts, none, none⟩

/-- The expression without the places and the bindings of its variables. -/
def Expr.bare (e : Expr) : Expr :=
  e.mapVariables Variable.bare

/-- Expressions without the places and the bindings of their variables. -/
def Expr.bareAll (es : List Expr) : List Expr :=
  Expr.mapVariablesOfAll Variable.bare es

namespace Sql.Reading

variable {r : Reading}

attribute [local simp] expr exprs arguments

/-- The term stands for the expression, wherever the select around it begins. -/
def Lowers (r : Reading) (t : Term) (e : Expr) : Prop :=
  ∀ select, ∃ w, r.expr select t = .ok w ∧ w.bare = e

/-- The terms stand for the expressions. -/
def LowersAll (r : Reading) (ts : List Term) (es : List Expr) : Prop :=
  ∀ select, ∃ ws, r.exprs select ts = .ok ws ∧ Expr.bareAll ws = es

/-- The arguments stand for the expressions, wherever they are. -/
def LowersArguments (r : Reading) (args : List Argument) (es : List Expr) : Prop :=
  ∀ select offsets, ∃ ws, r.arguments select offsets args = .ok ws ∧ Expr.bareAll ws = es

/-- The name has the value and is not reserved, or is in quotes. -/
def Names (r : Reading) (ident : Ident) (value : String) : Prop :=
  r.nameValue ident = .ok value

lemma nameParts_ok {idents : List Ident} {parts : List String}
    (h : List.Forall₂ r.Names idents parts) : r.nameParts idents = .ok parts :=
  Except.mapM_ok_iff.mpr h

lemma variableOf_ok {idents : List Ident} {parts : List String}
    (h : List.Forall₂ r.Names idents parts) :
    r.variableOf idents = .ok ⟨parts, r.start? idents, none⟩ := by
  simp [variableOf, nameParts_ok h, bind, Except.bind, pure, Except.pure]

lemma asterisk_ok {idents : List Ident} {parts : List String}
    (h : List.Forall₂ r.Names idents parts) (place : Option Nat) :
    r.asterisk idents place = .ok ⟨parts ++ ["*"], (r.start? idents).or place, none⟩ := by
  simp [asterisk, nameParts_ok h, bind, Except.bind, pure, Except.pure]

/-! ### Terms -/

lemma lowers_name {ident : Ident} {value : String} (h : r.Names ident value) :
    r.Lowers (.name ident) (.var ⟨[value], none, none⟩) := by
  intro select
  refine ⟨.var ⟨[value], r.start? [ident], none⟩, ?_, rfl⟩
  simp [variableOf_ok (.cons h .nil), bind, Except.bind, pure, Except.pure]

lemma lowers_path {idents : List Ident} {parts : List String}
    (h : List.Forall₂ r.Names idents parts) :
    r.Lowers (.path idents) (.var ⟨parts, none, none⟩) := by
  intro select
  refine ⟨.var ⟨parts, r.start? idents, none⟩, ?_, rfl⟩
  simp [variableOf_ok h, bind, Except.bind, pure, Except.pure]

lemma lowers_literal {literal : Literal} {value : Constant} (h : constant literal = .ok value) :
    r.Lowers (.literal literal) (.const value) := by
  intro select
  refine ⟨.const value, ?_, rfl⟩
  simp [h, bind, Except.bind, pure, Except.pure]

lemma Lowers.nested {t : Term} {e : Expr} (h : r.Lowers t e) : r.Lowers (.nested t) e := by
  intro select
  obtain ⟨w, hw, hbare⟩ := h select
  exact ⟨w, by rw [expr, hw], hbare⟩

lemma Lowers.unary {t : Term} {e : Expr} {op : UnaryOperator} {op' : UnaryOp} (h : r.Lowers t e)
    (hop : unaryOp op = .ok op') : r.Lowers (.unary op t) (.unary op' e) := by
  intro select
  obtain ⟨w, hw, rfl⟩ := h select
  refine ⟨.unary op' w, ?_, rfl⟩
  simp [hop, hw, bind, Except.bind, pure, Except.pure]

lemma Lowers.isNull {t : Term} {e : Expr} (h : r.Lowers t e) :
    r.Lowers (.isNull t) (.unary .isNull e) := by
  intro select
  obtain ⟨w, hw, rfl⟩ := h select
  refine ⟨.unary .isNull w, ?_, rfl⟩
  simp [hw, bind, Except.bind, pure, Except.pure]

lemma Lowers.isNotNull {t : Term} {e : Expr} (h : r.Lowers t e) :
    r.Lowers (.isNotNull t) (.unary .isNotNull e) := by
  intro select
  obtain ⟨w, hw, rfl⟩ := h select
  refine ⟨.unary .isNotNull w, ?_, rfl⟩
  simp [hw, bind, Except.bind, pure, Except.pure]

lemma Lowers.binary {left right : Term} {e e' : Expr} {op : BinaryOp}
    (halone : op.standsAlone = true) (hleft : r.Lowers left e) (hright : r.Lowers right e') :
    r.Lowers (.binary left (.known op halone) right) (.operation e op e') := by
  intro select
  obtain ⟨w, hw, rfl⟩ := hleft select
  obtain ⟨w', hw', rfl⟩ := hright select
  refine ⟨.operation w op w', ?_, rfl⟩
  simp [binaryOp, hw, hw', bind, Except.bind, pure, Except.pure]

lemma Lowers.like {left right : Term} {e e' : Expr} (negated : Bool) (hleft : r.Lowers left e)
    (hright : r.Lowers right e') :
    r.Lowers (.like negated false left right none)
      (.operation e (if negated then .notLike else .like) e') := by
  intro select
  obtain ⟨w, hw, rfl⟩ := hleft select
  obtain ⟨w', hw', rfl⟩ := hright select
  refine ⟨.operation w (if negated then .notLike else .like) w', ?_, rfl⟩
  simp [hw, hw', bind, Except.bind, pure, Except.pure]

lemma Lowers.inList {left : Term} {items : List Term} {e : Expr} {es : List Expr} (negated : Bool)
    (hleft : r.Lowers left e) (hitems : r.LowersAll items es) :
    r.Lowers (.inList left items negated)
      (.operation e (if negated then .notIn else .isIn) (.list es)) := by
  intro select
  obtain ⟨w, hw, rfl⟩ := hleft select
  obtain ⟨ws, hws, rfl⟩ := hitems select
  refine ⟨.operation w (if negated then .notIn else .isIn) (.list ws), ?_, rfl⟩
  simp [hw, hws, bind, Except.bind, pure, Except.pure]

lemma lowersAll_nil : r.LowersAll [] [] :=
  fun _ => ⟨[], rfl, rfl⟩

lemma LowersAll.cons {t : Term} {ts : List Term} {e : Expr} {es : List Expr} (h : r.Lowers t e)
    (hrest : r.LowersAll ts es) : r.LowersAll (t :: ts) (e :: es) := by
  intro select
  obtain ⟨w, hw, rfl⟩ := h select
  obtain ⟨ws, hws, rfl⟩ := hrest select
  refine ⟨w :: ws, ?_, rfl⟩
  simp [hw, hws, bind, Except.bind, pure, Except.pure]

lemma lowersAll_of_forall {ts : List Term} {es : List Expr} (h : List.Forall₂ r.Lowers ts es) :
    r.LowersAll ts es := by
  induction h with
  | nil => exact lowersAll_nil
  | cons h _ ih => exact .cons h ih

/-! ### Calls -/

/-- In front of other arguments, the argument stands for the expression. -/
def LowersArgument (r : Reading) (arg : Argument) (e : Expr) : Prop :=
  ∀ select offsets rest ws, r.arguments select offsets.tail rest = .ok ws →
    ∃ w, r.arguments select offsets (arg :: rest) = .ok (w :: ws) ∧ w.bare = e

lemma lowersArgument_term {t : Term} {e : Expr} (h : r.Lowers t e) :
    r.LowersArgument (.term t) e := by
  intro select offsets rest ws hrest
  obtain ⟨w, hw, hbare⟩ := h select
  exact ⟨w, by simp [hw, hrest, bind, Except.bind, pure, Except.pure], hbare⟩

lemma lowersArgument_wildcard : r.LowersArgument .wildcard (.var ⟨["*"], none, none⟩) := by
  intro select offsets rest ws hrest
  refine ⟨.var ⟨["*"], offsets.head?, none⟩, ?_, rfl⟩
  simp [asterisk_ok .nil, start?, hrest, bind, Except.bind, pure, Except.pure,
    Except.map, Functor.map]

lemma lowersArgument_qualified {idents : List Ident} {parts : List String}
    (h : List.Forall₂ r.Names idents parts) :
    r.LowersArgument (.qualifiedWildcard idents) (.var ⟨parts ++ ["*"], none, none⟩) := by
  intro select offsets rest ws hrest
  refine ⟨.var ⟨parts ++ ["*"], (r.start? idents).or offsets.head?, none⟩, ?_, rfl⟩
  simp [asterisk_ok h, hrest, bind, Except.bind, pure, Except.pure, Except.map,
    Functor.map]

lemma lowersArguments_nil : r.LowersArguments [] [] :=
  fun _ _ => ⟨[], rfl, rfl⟩

lemma LowersArguments.cons {arg : Argument} {args : List Argument} {e : Expr} {es : List Expr}
    (h : r.LowersArgument arg e) (hrest : r.LowersArguments args es) :
    r.LowersArguments (arg :: args) (e :: es) := by
  intro select offsets
  obtain ⟨ws, hws, rfl⟩ := hrest select offsets.tail
  obtain ⟨w, hw, rfl⟩ := h select offsets args ws hws
  exact ⟨w :: ws, hw, rfl⟩

lemma lowersArguments_of_forall {args : List Argument} {es : List Expr}
    (h : List.Forall₂ r.LowersArgument args es) : r.LowersArguments args es := by
  induction h with
  | nil => exact lowersArguments_nil
  | cons h _ ih => exact .cons h ih

lemma lowers_call {idents : List Ident} {values : List String} {args : List Argument}
    {es : List Expr} (hname : List.Forall₂ r.Names idents values)
    (hargs : r.LowersArguments args es) :
    r.Lowers (.call idents {} args)
      (.call (callKind (Name.dotted values)) (Name.dotted values) es) := by
  intro select
  obtain ⟨ws, hws, rfl⟩ := hargs select
    (r.argumentOffsets ((r.start? idents).getD select))
  refine ⟨.call (callKind (Name.dotted values)) (Name.dotted values) ws, ?_, rfl⟩
  simp [checkShape, checkArguments, nameParts_ok hname, hws, Name.dotted, bind, Except.bind, pure,
    Except.pure]

end Sql.Reading

end SelectBinding
