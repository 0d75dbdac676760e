import SelectBinding.Proofs.Sql.Lowering
import SelectBinding.Proofs.Sql.Derivation

/-!
What the text of an expression is read as.

Signs and questions about null are written without parentheses, so they need not be read as they
were meant: a sign takes the operand before a question about it is asked, and a negation takes
everything up to the next conjunction. The text of an expression is read as the expression
regrouped in this way, which is the expression itself exactly when it is upright.
-/

namespace SelectBinding

open Sql.Grammar

/-! ### Links -/

/-- Something that follows an operand: how tightly it binds, and what comes of the operand. -/
structure Link where
  strength : Nat
  join : Expr → Expr

namespace Link

/-- A question about null. -/
def question (op : UnaryOp) : Link :=
  ⟨nullStrength, .unary op⟩

/-- An operator with the operand on its right. -/
def operand (op : BinaryOp) (right : Expr) : Link :=
  ⟨op.strength, fun left => left.operation op right⟩

/-- The link is a question about null. -/
def IsQuestion (link : Link) : Prop :=
  ∃ op : UnaryOp, op.isQuestion = true ∧ link = question op

end Link

namespace Expr

/-- How an operand goes on under a bound, and the links that are left: those that bind more tightly
are taken. -/
def takeAbove (bound : Nat) : Expr → List Link → Expr × List Link
  | e, [] => (e, [])
  | e, link :: links =>
    if bound < link.strength then takeAbove bound (link.join e) links else (e, link :: links)

mutual

/-- The operand that is read first of an expression with links after it, and the links that are
left. Only a negation takes links inside of an operand. -/
def spread : Expr → List Link → Expr × List Link
  | .const value, links => (.const value, links)
  | .var v, links => (.var v.bare, links)
  | .unary op arg, links =>
    if op.isQuestion then arg.spread (.question op :: links)
    else
      let (operand, links) := arg.spread links
      let (operand, links) :=
        if op = .not then takeAbove notStrength operand links else (operand, links)
      (.unary op operand, links)
  | .binary _ op left right, links =>
    let (operand, rest) := right.spread []
    let (operand, rest) := takeAbove op.strength operand rest
    let (first, rest) := left.spread (.operand op operand :: rest)
    ((takeAbove 0 first rest).1, links)
  | .call kind name args, links => (.call kind name (regroupedAll args), links)
  | .underName expr name explicitAs, links =>
    let (operand, rest) := expr.spread []
    let (operand', rest') := name.spread []
    (.underName (takeAbove 0 operand rest).1 (takeAbove 0 operand' rest').1 explicitAs, links)
  | .list args, links => (.list (regroupedAll args), links)

/-- The expressions that the texts of several ones are read as. -/
def regroupedAll : List Expr → List Expr
  | [] => []
  | arg :: rest =>
    let (operand, links) := arg.spread []
    (takeAbove 0 operand links).1 :: regroupedAll rest

end

/-- The expression that the text of an expression is read as. -/
def regrouped (e : Expr) : Expr :=
  (takeAbove 0 (e.spread []).1 (e.spread []).2).1

/-! ### Taking links -/

section Taking

variable {bound : Nat} {e : Expr} {links : List Link}

@[simp]
lemma takeAbove_nil : takeAbove bound e [] = (e, []) :=
  rfl

lemma takeAbove_cons_of_lt {link : Link} (h : bound < link.strength) :
    takeAbove bound e (link :: links) = takeAbove bound (link.join e) links :=
  if_pos h

lemma takeAbove_cons_of_le {link : Link} (h : link.strength ≤ bound) :
    takeAbove bound e (link :: links) = (e, link :: links) :=
  if_neg (Nat.not_lt.mpr h)

/-- Under a bound that is low enough nothing is left. -/
lemma takeAbove_all (h : ∀ link ∈ links, bound < link.strength) :
    takeAbove bound e links = (links.foldl (fun e link => link.join e) e, []) := by
  induction links generalizing e with
  | nil => rfl
  | cons link links ih =>
    rw [List.forall_mem_cons] at h
    rw [takeAbove_cons_of_lt h.1, ih h.2, List.foldl_cons]

/-- Under a bound that is high enough nothing is taken. -/
lemma takeAbove_none (h : ∀ link ∈ links, link.strength ≤ bound) :
    takeAbove bound e links = (e, links) := by
  cases links with
  | nil => rfl
  | cons link links => exact takeAbove_cons_of_le (h link (by simp))

/-- What is taken stays the same when links are added that do not bind tightly enough. -/
lemma takeAbove_append {links' : List Link} (h : ∀ link ∈ links', link.strength ≤ bound) :
    takeAbove bound e (links ++ links') =
      ((takeAbove bound e links).1, (takeAbove bound e links).2 ++ links') := by
  induction links generalizing e with
  | nil => simpa using takeAbove_none h
  | cons link links ih =>
    rw [List.cons_append, takeAbove, takeAbove]
    split
    · exact ih
    · rfl

lemma mem_of_mem_takeAbove : ∀ link ∈ (takeAbove bound e links).2, link ∈ links := by
  induction links generalizing e with
  | nil => simp
  | cons link links ih =>
    rw [takeAbove]
    split
    · exact fun link hlink => List.mem_cons_of_mem _ (ih link hlink)
    · exact fun _ hlink => hlink

end Taking

/-! ### Upright expressions -/

/-- Whether the expression is a question about null. -/
def asksNull : Expr → Bool
  | .unary op _ => op.isQuestion
  | _ => false

/-- Whether a negation that is not in parentheses reaches to the end of the expression. -/
def exposesNot : Expr → Bool
  | .unary op arg => op == .not || arg.exposesNot
  | _ => false

mutual

/-- Whether every operand can be written without parentheses where it is written so: no sign before
a question about null, no question about a negation, and none of the two beside an operator that
binds more tightly. Operations are filed under the families of their operators. -/
def upright : Expr → Bool
  | .const _ | .var _ => true
  | .unary op arg =>
    arg.upright &&
      if op.isQuestion then !arg.exposesNot else op == .not || !arg.asksNull
  | .binary family op left right =>
    family == op.family && left.upright && right.upright &&
      (!left.exposesNot || op.strength ≤ notStrength) &&
      (!right.asksNull || op.strength < nullStrength)
  | .call _ _ args => uprightAll args
  | .underName expr name _ => expr.upright && name.upright
  | .list args => uprightAll args

/-- Whether every expression of a list is upright. -/
def uprightAll : List Expr → Bool
  | [] => true
  | arg :: rest => arg.upright && uprightAll rest

end

/-! ### Spreading -/

section Spreading

/-- Links are taken one after the other. -/
def joined (e : Expr) (links : List Link) : Expr :=
  links.foldl (fun e link => link.join e) e

/-- After a question about null the whole is one. -/
lemma asksNull_joined {e : Expr} {links : List Link} (h : ∀ link ∈ links, link.IsQuestion)
    (hne : links ≠ []) : (joined e links).asksNull = true := by
  rw [← List.dropLast_append_getLast hne]
  obtain ⟨op, hop, hlast⟩ := h _ (List.getLast_mem hne)
  simp [joined, hlast, Link.question, asksNull, hop]

lemma strength_of_isQuestion {link : Link} (h : link.IsQuestion) :
    link.strength = nullStrength := by
  obtain ⟨op, -, rfl⟩ := h
  rfl

lemma forall_lt_of_isQuestion {bound : Nat} (hbound : bound < nullStrength) {links : List Link}
    (h : ∀ link ∈ links, link.IsQuestion) : ∀ link ∈ links, bound < link.strength :=
  fun link hlink => strength_of_isQuestion (h link hlink) ▸ hbound

/-- Without a negation at its end, an expression leaves all links, after its own questions. -/
lemma spread_of_not_exposes (e : Expr) (h : e.exposesNot = false) :
    ∃ operand questions, (∀ link ∈ questions, link.IsQuestion) ∧
      ∀ links, e.spread links = (operand, questions ++ links) := by
  cases e with
  | unary op arg =>
    simp only [exposesNot, Bool.or_eq_false_iff, beq_eq_false_iff_ne] at h
    obtain ⟨operand, questions, hquestions, hspread⟩ := arg.spread_of_not_exposes h.2
    by_cases hop : op.isQuestion = true
    · refine ⟨operand, questions ++ [.question op], ?_, fun links => ?_⟩
      · simpa [or_imp, forall_and] using ⟨hquestions, op, hop, rfl⟩
      · simp [spread, hop, hspread]
    · exact ⟨.unary op operand, questions, hquestions,
        fun links => by simp [spread, hop, hspread, h.1]⟩
  | _ => exact ⟨_, [], by simp, fun links => by rw [spread]; rfl⟩

/-- With a negation at its end, an expression takes every link that binds more tightly than a
negation, and begins with a sign or a negation. -/
lemma spread_of_exposes (e : Expr) (h : e.exposesNot = true) {links : List Link}
    (hlinks : ∀ link ∈ links, notStrength < link.strength) :
    ∃ op arg, op.isQuestion = false ∧ e.spread links = (.unary op arg, []) := by
  cases e with
  | unary op arg =>
    by_cases hop : op.isQuestion = true
    · have hnot : op ≠ .not := by
        rintro rfl
        exact absurd hop (by decide)
      have harg : arg.exposesNot = true := by simpa [exposesNot, hnot] using h
      have hmore : ∀ link ∈ .question op :: links, notStrength < link.strength := by
        simpa [Link.question, nullStrength, notStrength] using hlinks
      obtain ⟨op', arg', hop', hspread⟩ := arg.spread_of_exposes harg hmore
      exact ⟨op', arg', hop', by rw [spread, if_pos hop, hspread]⟩
    · rw [Bool.not_eq_true] at hop
      by_cases harg : arg.exposesNot = true
      · obtain ⟨op', arg', -, hspread⟩ := arg.spread_of_exposes harg hlinks
        exact ⟨op, .unary op' arg', hop, by simp [spread, hop, hspread]⟩
      · obtain ⟨operand, questions, hquestions, hspread⟩ :=
          arg.spread_of_not_exposes (by simpa using harg)
        obtain rfl : op = .not := by simpa [exposesNot, harg] using h
        have hall : ∀ link ∈ questions ++ links, notStrength < link.strength := by
          simpa [or_imp, forall_and] using
            ⟨forall_lt_of_isQuestion (by decide : notStrength < nullStrength) hquestions, hlinks⟩
        exact ⟨.not, joined operand (questions ++ links), hop,
          by simp [spread, hop, hspread, takeAbove_all hall, joined]⟩
  | _ => simp [exposesNot] at h

/-- Links that do not bind more tightly than a negation are left. -/
lemma spread_append (e : Expr) (links : List Link) {links' : List Link}
    (h : ∀ link ∈ links', link.strength ≤ notStrength) :
    e.spread (links ++ links') = ((e.spread links).1, (e.spread links).2 ++ links') := by
  cases e with
  | unary op arg =>
    by_cases hop : op.isQuestion = true
    · have := arg.spread_append (.question op :: links) h
      simpa [spread, hop] using this
    · have := arg.spread_append links h
      by_cases hnot : op = .not
      · subst hnot
        simp [spread, hop, this, takeAbove_append h]
      · simp [spread, hop, hnot, this]
  | _ => rw [spread, spread]

/-- What is left of an expression alone are questions about null. -/
lemma isQuestion_of_mem_spread (e : Expr) : ∀ link ∈ (e.spread []).2, link.IsQuestion := by
  by_cases h : e.exposesNot = true
  · have hnone : ∀ link ∈ ([] : List Link), notStrength < link.strength := by simp
    obtain ⟨op, arg, -, hspread⟩ := e.spread_of_exposes h hnone
    simp [hspread]
  · obtain ⟨operand, questions, hquestions, hspread⟩ := e.spread_of_not_exposes (by simpa using h)
    simpa [hspread] using hquestions

/-- Under a bound below that of questions about null, nothing is left of an expression. -/
lemma takeAbove_spread (e : Expr) {bound : Nat} (h : bound < nullStrength) :
    takeAbove bound (e.spread []).1 (e.spread []).2 = (e.regrouped, []) := by
  have hquestions := e.isQuestion_of_mem_spread
  rw [regrouped, takeAbove_all (forall_lt_of_isQuestion h hquestions),
    takeAbove_all (forall_lt_of_isQuestion (by decide) hquestions)]

lemma regrouped_eq_joined (e : Expr) : e.regrouped = joined (e.spread []).1 (e.spread []).2 := by
  rw [regrouped, takeAbove_all (forall_lt_of_isQuestion (by decide) e.isQuestion_of_mem_spread)]
  rfl

end Spreading

/-! ### What is regrouped -/

lemma asksNull_bare (e : Expr) : e.bare.asksNull = e.asksNull := by
  cases e <;> rfl

/-- Nothing is left of an expression that is no question about null and is read as it is. -/
lemma spread_eq_bare_iff {e : Expr} (h : e.regrouped = e.bare ↔ e.upright = true) :
    e.spread [] = (e.bare, []) ↔ e.upright = true ∧ e.asksNull = false := by
  rw [← h]
  constructor
  · intro hspread
    have hbare : e.regrouped = e.bare := by simp [regrouped, hspread]
    refine ⟨hbare, ?_⟩
    by_contra hasks
    cases e with
    | unary op arg =>
      have hop : op.isQuestion = true := by simpa [asksNull] using hasks
      have hexposes : arg.exposesNot = false := by
        have hupright := h.mp hbare
        simp only [upright, hop, if_true, Bool.and_eq_true, Bool.not_eq_true'] at hupright
        exact hupright.2
      obtain ⟨operand, questions, -, hall⟩ := arg.spread_of_not_exposes hexposes
      simp [spread, hop, hall] at hspread
    | _ => simp [asksNull] at hasks
  · rintro ⟨hbare, hasks⟩
    have hnil : (e.spread []).2 = [] := by
      by_contra hne
      have := asksNull_joined (e := (e.spread []).1) e.isQuestion_of_mem_spread hne
      rw [← regrouped_eq_joined, hbare, asksNull_bare, hasks] at this
      exact absurd this (by decide)
    rw [regrouped_eq_joined, hnil] at hbare
    exact Prod.ext hbare hnil

/-- A question about an expression that shows a `NOT` is read as asked about what the `NOT` is
before. -/
lemma regrouped_question_ne {op : UnaryOp} {arg : Expr} (hop : op.isQuestion = true)
    (hexposes : arg.exposesNot = true) (e : Expr) : (unary op arg).regrouped ≠ .unary op e := by
  have hlt : ∀ link ∈ [Link.question op], notStrength < link.strength := by
    simp [Link.question, nullStrength, notStrength]
  obtain ⟨op', arg', hop', hspread⟩ := arg.spread_of_exposes hexposes hlt
  have hread : (unary op arg).regrouped = .unary op' arg' := by
    simp [regrouped, spread, hop, hspread]
  rw [hread]
  rintro ⟨⟩
  exact absurd (hop.symm.trans hop') (by decide)

/-- A question about any other expression is read as asked about all of it. -/
lemma regrouped_question {op : UnaryOp} {arg : Expr} (hop : op.isQuestion = true)
    (hexposes : arg.exposesNot = false) :
    (unary op arg).regrouped = .unary op arg.regrouped := by
  obtain ⟨operand, questions, hquestions, hspread⟩ := arg.spread_of_not_exposes hexposes
  have hall : ∀ link ∈ questions ++ [.question op], 0 < link.strength := by
    simpa [or_imp, forall_and, Link.question, nullStrength] using
      forall_lt_of_isQuestion (by decide : 0 < nullStrength) hquestions
  rw [regrouped, spread, if_pos hop, hspread, takeAbove_all hall, regrouped_eq_joined, hspread]
  simp [joined, Link.question]

/-- A `NOT` takes the questions about its operand along. -/
lemma regrouped_not (arg : Expr) : (unary .not arg).regrouped = .unary .not arg.regrouped := by
  have htake := arg.takeAbove_spread (by decide : notStrength < nullStrength)
  simp [regrouped, spread, UnaryOp.isQuestion, htake]

/-- A sign leaves the questions about its operand to be asked about the whole. -/
lemma regrouped_sign_iff {op : UnaryOp} {arg : Expr} (hop : op.isQuestion = false)
    (hnot : op ≠ .not) :
    (unary op arg).regrouped = .unary op arg.bare ↔ arg.spread [] = (arg.bare, []) := by
  have hspread : (unary op arg).spread [] = (.unary op (arg.spread []).1, (arg.spread []).2) := by
    simp [spread, hop, hnot]
  rw [regrouped_eq_joined, hspread]
  constructor
  · intro hread
    have hnil : (arg.spread []).2 = [] := by
      by_contra hne
      have hasks := asksNull_joined (e := .unary op (arg.spread []).1)
        arg.isQuestion_of_mem_spread hne
      rw [hread] at hasks
      exact absurd (hop.symm.trans hasks) (by decide)
    rw [hnil] at hread
    exact Prod.ext (by simpa [joined] using hread) hnil
  · intro hread
    simp [hread, joined]

/-- An expression under an operator before or after it is read as such exactly when it is read as
itself and the operator can be written where it is. -/
lemma regrouped_unary_iff {op : UnaryOp} {arg : Expr}
    (h : arg.regrouped = arg.bare ↔ arg.upright = true) :
    (unary op arg).regrouped = .unary op arg.bare ↔ (unary op arg).upright = true := by
  cases hop : op.isQuestion with
  | true =>
    cases hexposes : arg.exposesNot with
    | true => simp [regrouped_question_ne hop hexposes, upright, hop, hexposes]
    | false => simp [regrouped_question hop hexposes, h, upright, hop, hexposes]
  | false =>
    by_cases hnot : op = .not
    · subst hnot
      simp [regrouped_not, h, upright, hop]
    · rw [regrouped_sign_iff hop hnot, spread_eq_bare_iff h]
      simp [upright, hop, hnot]

/-- The operand on the right of an operator, and the questions that are asked about the whole. -/
lemma takeAbove_right_iff {e : Expr} (h : e.regrouped = e.bare ↔ e.upright = true) (bound : Nat) :
    takeAbove bound (e.spread []).1 (e.spread []).2 = (e.bare, []) ↔
      e.upright = true ∧ (e.asksNull = false ∨ bound < nullStrength) := by
  by_cases hbound : bound < nullStrength
  · simp [takeAbove_spread e hbound, h, hbound]
  · have hnone : ∀ link ∈ (e.spread []).2, link.strength ≤ bound := fun link hlink =>
      strength_of_isQuestion (e.isQuestion_of_mem_spread link hlink) ▸ Nat.le_of_not_lt hbound
    rw [takeAbove_none hnone]
    simp [hbound, spread_eq_bare_iff h]

/-- Where no negation takes the operator, an operation is read as one, with questions about it. -/
lemma regrouped_operation {family : Family} {op : BinaryOp} {left right operand : Expr}
    {rest : List Link}
    (htake : takeAbove op.strength (right.spread []).1 (right.spread []).2 = (operand, rest))
    (hrest : ∀ link ∈ rest, link.IsQuestion)
    (hleft : left.exposesNot = false ∨ op.strength ≤ notStrength) :
    (binary family op left right).regrouped =
      joined (.operation left.regrouped op operand) rest := by
  have hread : (binary family op left right).regrouped =
      (takeAbove 0 (left.spread (.operand op operand :: rest)).1
        (left.spread (.operand op operand :: rest)).2).1 := by
    simp [regrouped, spread, htake]
  have hspread : left.spread (.operand op operand :: rest) =
      ((left.spread []).1, (left.spread []).2 ++ .operand op operand :: rest) := by
    rcases hleft with hexposes | hle
    · obtain ⟨first, questions, -, hall⟩ := left.spread_of_not_exposes hexposes
      simp [hall]
    · have hnil : rest = [] := by
        have := right.takeAbove_spread (Nat.lt_of_le_of_lt hle (by decide : _ < nullStrength))
        exact (Prod.mk.inj (htake.symm.trans this)).2
      have hlow : ∀ link ∈ [Link.operand op operand], link.strength ≤ notStrength := by
        simpa [Link.operand] using hle
      simpa [hnil] using left.spread_append [] hlow
  have hpos : ∀ link ∈ (left.spread []).2 ++ .operand op operand :: rest, 0 < link.strength := by
    simp only [List.mem_append, List.mem_cons, or_imp, forall_and, forall_eq]
    exact ⟨forall_lt_of_isQuestion (by decide) left.isQuestion_of_mem_spread, op.strength_pos,
      forall_lt_of_isQuestion (by decide) hrest⟩
  rw [hread, hspread, takeAbove_all hpos, regrouped_eq_joined]
  simp [joined, Link.operand]

/-- An operation is read as such exactly when both of its operands are read as themselves, and as
operands of it. -/
lemma regrouped_binary_iff {family : Family} {op : BinaryOp} {left right : Expr}
    (hleft : left.regrouped = left.bare ↔ left.upright = true)
    (hright : right.regrouped = right.bare ↔ right.upright = true) :
    (binary family op left right).regrouped = .binary family op left.bare right.bare ↔
      (binary family op left right).upright = true := by
  obtain ⟨⟨operand, rest⟩, htake⟩ :
      ∃ p, takeAbove op.strength (right.spread []).1 (right.spread []).2 = p := ⟨_, rfl⟩
  have hrest : ∀ link ∈ rest, link.IsQuestion := fun link hlink =>
    right.isQuestion_of_mem_spread link
      (mem_of_mem_takeAbove link (by rw [htake]; exact hlink))
  have hiff := takeAbove_right_iff hright op.strength
  rw [htake, Prod.mk.injEq] at hiff
  by_cases hreach : left.exposesNot = false ∨ op.strength ≤ notStrength
  · have hjoined : joined (.operation left.regrouped op operand) rest =
        .binary family op left.bare right.bare ↔
          family = op.family ∧ left.regrouped = left.bare ∧ operand = right.bare ∧ rest = [] := by
      constructor
      · intro hread
        have hnil : rest = [] := by
          by_contra hne
          have := asksNull_joined (e := .operation left.regrouped op operand) hrest hne
          rw [hread] at this
          exact absurd this (by simp [asksNull])
        rw [hnil] at hread
        simpa [joined, operation, hnil, @eq_comm _ family] using hread
      · rintro ⟨rfl, h, rfl, rfl⟩
        simp [joined, h, operation]
    rw [regrouped_operation htake hrest hreach, hjoined, hleft, hiff]
    simp only [upright, Bool.and_eq_true, Bool.or_eq_true, Bool.not_eq_true', beq_iff_eq,
      decide_eq_true_eq, hreach, and_true, and_assoc]
  · obtain ⟨hexposes, hlt⟩ := not_or.mp hreach
    rw [Bool.not_eq_false] at hexposes
    have hlinks : ∀ link ∈ Link.operand op operand :: rest, notStrength < link.strength := by
      rw [List.forall_mem_cons]
      exact ⟨Nat.lt_of_not_le hlt, forall_lt_of_isQuestion (by decide) hrest⟩
    obtain ⟨op', arg, -, hspread⟩ := left.spread_of_exposes hexposes hlinks
    have hread : (binary family op left right).regrouped = .unary op' arg := by
      simp [regrouped, spread, htake, hspread]
    simp [hread, upright, hexposes, hlt]

mutual

/-- **Regrouping.** The text of an expression is read as the expression exactly when it is
upright. -/
theorem regrouped_eq_bare_iff (e : Expr) : e.regrouped = e.bare ↔ e.upright = true := by
  cases e with
  | const value => simp [regrouped, spread, upright, bare, mapVariables]
  | var v => simp [regrouped, spread, upright, bare, mapVariables]
  | unary op arg => exact regrouped_unary_iff arg.regrouped_eq_bare_iff
  | binary family op left right =>
    exact regrouped_binary_iff left.regrouped_eq_bare_iff right.regrouped_eq_bare_iff
  | call kind name args =>
    simpa [regrouped, spread, upright, bare, mapVariables, bareAll] using
      regroupedAll_eq_bareAll_iff args
  | underName expr name explicitAs =>
    have h := expr.regrouped_eq_bare_iff
    have h' := name.regrouped_eq_bare_iff
    rw [regrouped, bare] at h h'
    simp [regrouped, spread, upright, bare, mapVariables, h, h']
  | list args =>
    simpa [regrouped, spread, upright, bare, mapVariables, bareAll] using
      regroupedAll_eq_bareAll_iff args

/-- The texts of several expressions are read as these exactly when all of them are upright. -/
theorem regroupedAll_eq_bareAll_iff (args : List Expr) :
    regroupedAll args = bareAll args ↔ uprightAll args = true := by
  cases args with
  | nil => simp [regroupedAll, bareAll, mapVariablesOfAll, uprightAll]
  | cons arg rest =>
    have h := arg.regrouped_eq_bare_iff
    have h' := regroupedAll_eq_bareAll_iff rest
    rw [regrouped, bare] at h
    rw [bareAll] at h'
    simp [regroupedAll, bareAll, mapVariablesOfAll, uprightAll, h, h']

end

/-- A question about a negation is read as the negation of the question. -/
example (v : Variable) : (unary .isNull (.unary .not (.var v))).regrouped =
    .unary .not (.unary .isNull (.var v.bare)) :=
  rfl

end Expr

end SelectBinding
