import SelectBinding.Proofs.Scope.Accepts
import SelectBinding.Proofs.Text.Regrouping

/-!
What regrouping leaves as it is.

The expression that the text of an expression is read as has the same names in the same order and
may stand wherever the expression may. It is made by an operator where the expression is.
-/

namespace SelectBinding

namespace Expr

/-! ### Names -/

/-- The parts of the names in an expression, from left to right. -/
def names (e : Expr) : List (List String) :=
  e.allVariables.map Variable.parts

/-- The parts of the names in several expressions, from left to right. -/
def namesOfAll (es : List Expr) : List (List String) :=
  (variablesOfAll es).map Variable.parts

section Names

variable {value : Constant} {v : Variable} {op : UnaryOp} {family : Family} {op' : BinaryOp}
  {e e' : Expr} {kind : CallKind} {name : String} {es : List Expr}

@[simp]
lemma names_const : (const value).names = [] :=
  rfl

@[simp]
lemma names_var : (var v).names = [v.parts] :=
  rfl

@[simp]
lemma names_unary : (unary op e).names = e.names :=
  rfl

@[simp]
lemma names_binary : (binary family op' e e').names = e.names ++ e'.names :=
  List.map_append

@[simp]
lemma names_call : (call kind name es).names = namesOfAll es :=
  rfl

@[simp]
lemma names_list : (list es).names = namesOfAll es :=
  rfl

@[simp]
lemma namesOfAll_nil : namesOfAll [] = [] :=
  rfl

@[simp]
lemma namesOfAll_cons : namesOfAll (e :: es) = e.names ++ namesOfAll es :=
  List.map_append

end Names

/-- Whether the expression is made by an operator. -/
def isCompound : Expr → Bool
  | .unary .. | .binary .. => true
  | _ => false

/-- What may stand anywhere but an asterisk may stand where none may. -/
lemma admissible_cases {asterisk : Bool} {e : Expr} (h : e.Admissible asterisk) :
    e.Admissible false ∨ ∃ v, e = .var v := by
  cases e with
  | var v => exact .inr ⟨v, rfl⟩
  | call kind name args => cases kind <;> exact .inl h
  | _ => exact .inl h

lemma Admissible.mono {asterisk : Bool} {e : Expr} (h : e.Admissible false) :
    e.Admissible asterisk := by
  cases e with
  | var v => exact fun hasterisk => absurd (h hasterisk) (by decide)
  | call kind name args => cases kind <;> exact h
  | _ => exact h

end Expr

/-! ### Links -/

open SelectBinding.Expr Sql.Grammar

/-- A link adds these names to those of an operand, and makes something of it that may stand where
the operand may. -/
structure Link.Adds (link : Link) (names : List (List String)) : Prop where
  names : ∀ e, (link.join e).names = e.names ++ names
  admissible : ∀ e : Expr, e.Admissible false → (link.join e).Admissible false
  compound : ∀ e, (link.join e).isCompound = true
  binds : 0 < link.strength

lemma Link.question_adds (op : UnaryOp) : (Link.question op).Adds [] where
  names e := (List.append_nil _).symm
  admissible _ h := h
  compound _ := rfl
  binds := (by decide : 0 < nullStrength)

lemma Link.operand_adds (op : BinaryOp) {right : Expr} (h : right.Admissible false) :
    (Link.operand op right).Adds right.names where
  names _ := names_binary
  admissible _ hleft := ⟨hleft, h⟩
  compound _ := rfl
  binds := op.strength_pos

/-- Links add these names one after the other. -/
inductive AddAll : List Link → List (List String) → Prop where
  | nil : AddAll [] []
  | cons {link : Link} {links : List Link} {names more : List (List String)} (h : link.Adds names)
      (hrest : AddAll links more) : AddAll (link :: links) (names ++ more)

/-- An operand and the links after it have these names. -/
structure HaveNames (operand : Expr × List Link) (names : List (List String)) : Prop where
  admissible : operand.1.Admissible false
  names : ∃ more, AddAll operand.2 more ∧ names = operand.1.names ++ more

namespace HaveNames

variable {e : Expr} {links : List Link} {names : List (List String)}

lemma of_links {more : List (List String)} (h : e.Admissible false) (hlinks : AddAll links more) :
    HaveNames (e, links) (e.names ++ more) :=
  ⟨h, more, hlinks, rfl⟩

lemma join {link : Link} (h : HaveNames (e, link :: links) names) :
    HaveNames (link.join e, links) names := by
  obtain ⟨hadmissible, _, hlinks, rfl⟩ := h
  cases hlinks with
  | cons hlink hrest =>
    refine ⟨hlink.admissible e hadmissible, _, hrest, ?_⟩
    rw [hlink.names, List.append_assoc]

/-- Taking links keeps the names. -/
lemma takeAbove (bound : Nat) (h : HaveNames (e, links) names) :
    HaveNames (Expr.takeAbove bound e links) names := by
  induction links generalizing e with
  | nil => exact h
  | cons link links ih =>
    rw [Expr.takeAbove]
    split
    · exact ih h.join
    · exact h

/-- Under the lowest bound the whole has the names, and is made by an operator if a link is. -/
lemma whole (h : HaveNames (e, links) names) :
    (Expr.takeAbove 0 e links).1.names = names ∧
      (Expr.takeAbove 0 e links).1.Admissible false ∧
      (e.isCompound = true ∨ links ≠ [] → (Expr.takeAbove 0 e links).1.isCompound = true) := by
  induction links generalizing e with
  | nil =>
    obtain ⟨hadmissible, _, ⟨⟩, rfl⟩ := h
    exact ⟨(List.append_nil _).symm, hadmissible, by simp⟩
  | cons link links ih =>
    obtain ⟨_, hlink⟩ : ∃ names, link.Adds names := by
      obtain ⟨-, _, hlinks, -⟩ := h
      cases hlinks with
      | cons hlink _ => exact ⟨_, hlink⟩
    rw [takeAbove_cons_of_lt hlink.binds]
    obtain ⟨hnames, hadmissible, hcompound⟩ := ih h.join
    exact ⟨hnames, hadmissible, fun _ => hcompound (.inl (hlink.compound e))⟩

end HaveNames

/-! ### Regrouping -/

namespace Expr

mutual

/-- **Names.** Spreading an expression keeps its names and those of the links after it. -/
theorem spread_names (e : Expr) (h : e.Admissible false) {links : List Link}
    {more : List (List String)} (hlinks : AddAll links more) :
    HaveNames (e.spread links) (e.names ++ more) := by
  cases e with
  | const value =>
    rw [spread]
    exact .of_links h hlinks
  | var v =>
    rw [spread]
    exact .of_links h hlinks
  | unary op arg =>
    have hargument : arg.Admissible false := h
    rw [spread]
    split
    · exact spread_names arg hargument (.cons (Link.question_adds op) hlinks)
    · have harg := spread_names arg hargument hlinks
      have htaken : HaveNames
          (if op = .not then takeAbove notStrength (arg.spread links).1 (arg.spread links).2
            else arg.spread links) (arg.names ++ more) := by
        split
        · exact harg.takeAbove notStrength
        · exact harg
      obtain ⟨hadmissible, hmore⟩ := htaken
      exact ⟨hadmissible, hmore⟩
  | binary family op left right =>
    obtain ⟨hleft, hright⟩ := h
    have hoperand := (spread_names right hright .nil).takeAbove op.strength
    rw [List.append_nil] at hoperand
    obtain ⟨hadmissible, rest, hrest, hnames⟩ := hoperand
    have hfirst := spread_names left hleft (.cons (Link.operand_adds op hadmissible) hrest)
    obtain ⟨hwhole, hadmissible', -⟩ := hfirst.whole
    rw [spread]
    refine ⟨hadmissible', more, hlinks, ?_⟩
    rw [names_binary, hnames]
    exact congrArg (· ++ more) hwhole.symm
  | call kind name args =>
    rw [spread]
    cases kind with
    | function =>
      obtain ⟨hnames, hargs⟩ := regroupedAll_names args h
      exact ⟨hargs, more, hlinks, by rw [names_call, names_call, hnames]⟩
    | aggregate =>
      obtain ⟨hnames, hargs⟩ := regroupedAll_names args h
      exact ⟨hargs, more, hlinks, by rw [names_call, names_call, hnames]⟩
  | underName expr name explicitAs => exact absurd h id
  | list args =>
    rw [spread]
    obtain ⟨hnames, hargs⟩ := regroupedAll_names args h
    exact ⟨hargs, more, hlinks, by rw [names_list, names_list, hnames]⟩

/-- Regrouping several expressions keeps their names. -/
theorem regroupedAll_names {asterisk : Bool} (es : List Expr) (h : AllAdmissible asterisk es) :
    namesOfAll (regroupedAll es) = namesOfAll es ∧ AllAdmissible asterisk (regroupedAll es) := by
  cases es with
  | nil => exact ⟨rfl, trivial⟩
  | cons arg rest =>
    obtain ⟨harg, hrest⟩ := h
    obtain ⟨hnames, hadmissible⟩ := regroupedAll_names rest hrest
    rw [regroupedAll, namesOfAll_cons, namesOfAll_cons, hnames]
    rcases admissible_cases harg with hfalse | ⟨v, rfl⟩
    · obtain ⟨hwhole, hadmissible', -⟩ := (spread_names arg hfalse .nil).whole
      rw [List.append_nil] at hwhole
      exact ⟨by rw [hwhole], hadmissible'.mono, hadmissible⟩
    · exact ⟨rfl, harg, hadmissible⟩

end

/-- **Regrouping.** An expression is read as one with the same names, which may stand where the
expression may. -/
lemma regrouped_names {asterisk : Bool} {e : Expr} (h : e.Admissible asterisk) :
    e.regrouped.names = e.names ∧ e.regrouped.Admissible asterisk := by
  rcases admissible_cases h with hfalse | ⟨v, rfl⟩
  · obtain ⟨hwhole, hadmissible, -⟩ := (e.spread_names hfalse .nil).whole
    exact ⟨by rwa [List.append_nil] at hwhole, hadmissible.mono⟩
  · exact ⟨rfl, h⟩

/-! ### Operators -/

/-- Spread, an expression that is made by an operator or has links after it is made by one or has
links after it. -/
lemma spread_compound (e : Expr) (h : e.Admissible false) {links : List Link}
    {more : List (List String)} (hlinks : AddAll links more)
    (hne : e.isCompound = true ∨ links ≠ []) :
    (e.spread links).1.isCompound = true ∨ (e.spread links).2 ≠ [] := by
  cases e with
  | unary op arg =>
    rw [spread]
    split
    · exact spread_compound arg h (.cons (Link.question_adds op) hlinks) (.inr (by simp))
    · exact .inl rfl
  | binary family op left right =>
    obtain ⟨hleft, hright⟩ := h
    obtain ⟨hadmissible, rest, hrest, -⟩ :=
      (spread_names right hright .nil).takeAbove op.strength
    have hoperand := AddAll.cons (Link.operand_adds op hadmissible) hrest
    obtain ⟨-, -, hcompound⟩ := (spread_names left hleft hoperand).whole
    rw [spread]
    exact .inl (hcompound (spread_compound left hleft hoperand (.inr (by simp))))
  | _ =>
    rw [spread]
    simpa [isCompound] using hne

/-- What is made by an operator is read as something that is. -/
lemma regrouped_compound {e : Expr} (h : e.Admissible false) (hcompound : e.isCompound = true) :
    e.regrouped.isCompound = true :=
  (e.spread_names h .nil).whole.2.2 (e.spread_compound h .nil (.inl hcompound))

/-- An expression that is no name and no list is read as neither. -/
lemma regrouped_kind {e : Expr} (h : e.Admissible true) (hvariable : e.isVariable = false)
    (hlist : e.isList = false) :
    e.regrouped.isVariable = false ∧ e.regrouped.isList = false := by
  have hcompound (e' : Expr) (h : e'.isCompound = true) :
      e'.isVariable = false ∧ e'.isList = false := by
    cases e' <;> first | exact ⟨rfl, rfl⟩ | simp [isCompound] at h
  cases e with
  | var v => simp [isVariable] at hvariable
  | list args => simp [isList] at hlist
  | const value => exact ⟨rfl, rfl⟩
  | call kind name args => exact ⟨rfl, rfl⟩
  | unary op arg => exact hcompound _ (regrouped_compound h rfl)
  | binary family op left right => exact hcompound _ (regrouped_compound h rfl)
  | underName expr name explicitAs => exact absurd h id

/-! ### Places -/

lemma isVariable_bare (e : Expr) : e.bare.isVariable = e.isVariable := by
  cases e <;> rfl

lemma isList_bare (e : Expr) : e.bare.isList = e.isList := by
  cases e <;> rfl

lemma bare_eq_var_iff {e : Expr} {v : Variable} :
    e.bare = .var v ↔ ∃ v', e = .var v' ∧ v'.bare = v := by
  cases e <;> simp [bare, mapVariables]

lemma bare_eq_underName_iff {e expr name : Expr} {explicitAs : Bool} :
    e.bare = .underName expr name explicitAs ↔
      ∃ expr' name', e = .underName expr' name' explicitAs ∧ expr'.bare = expr ∧
        name'.bare = name := by
  cases e with
  | underName expr' name' explicitAs' =>
    simp only [bare, mapVariables, underName.injEq]
    constructor
    · rintro ⟨rfl, rfl, rfl⟩
      exact ⟨_, _, ⟨rfl, rfl, rfl⟩, rfl, rfl⟩
    · rintro ⟨_, _, ⟨rfl, rfl, rfl⟩, rfl, rfl⟩
      exact ⟨rfl, rfl, rfl⟩
  | _ => simp [bare, mapVariables]

mutual

/-- Places and bindings matter neither to the names nor to where an expression may stand. -/
lemma bare_names (e : Expr) (asterisk : Bool) :
    e.bare.names = e.names ∧ (e.bare.Admissible asterisk ↔ e.Admissible asterisk) := by
  cases e with
  | const value => exact ⟨rfl, Iff.rfl⟩
  | var v => exact ⟨rfl, Iff.rfl⟩
  | unary op arg => exact bare_names arg false
  | binary family op left right =>
    obtain ⟨hleft, hleft'⟩ := bare_names left false
    obtain ⟨hright, hright'⟩ := bare_names right false
    rw [names_binary, ← hleft, ← hright]
    exact ⟨names_binary, and_congr hleft' hright'⟩
  | call kind name args =>
    cases kind with
    | function => exact bareAll_names args false
    | aggregate => exact bareAll_names args true
  | underName expr name explicitAs =>
    obtain ⟨hexpr, -⟩ := bare_names expr false
    obtain ⟨hname, -⟩ := bare_names name false
    refine ⟨?_, Iff.rfl⟩
    simp only [names, bare, mapVariables, allVariables, List.map_append] at hexpr hname ⊢
    rw [hexpr, hname]
  | list args => exact bareAll_names args false

lemma bareAll_names (es : List Expr) (asterisk : Bool) :
    namesOfAll (bareAll es) = namesOfAll es ∧
      (AllAdmissible asterisk (bareAll es) ↔ AllAdmissible asterisk es) := by
  cases es with
  | nil => exact ⟨rfl, Iff.rfl⟩
  | cons arg rest =>
    obtain ⟨harg, harg'⟩ := bare_names arg asterisk
    obtain ⟨hrest, hrest'⟩ := bareAll_names rest asterisk
    rw [namesOfAll_cons, ← harg, ← hrest]
    exact ⟨namesOfAll_cons, and_congr harg' hrest'⟩

end

end Expr

end SelectBinding
