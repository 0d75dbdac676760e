import SelectBinding.Proofs.Sql.Levels
import SelectBinding.Proofs.Text.Regrouping
import SelectBinding.Proofs.Text.Spelling

/-!
The tokens of an expression are derived, as the expression that its text is read as.
-/

namespace SelectBinding

open Sql Sql.Grammar

/-! ### Literals -/

section Literals

variable {reserved : Reserved} {inner : Level}

/-- A whole number is spelled without a sign. -/
lemma not_mem_toString {c : Char} (h : c.isDigit = false) (n : Nat) : c ∉ (toString n).toList := by
  intro hmem
  rw [Nat.toString_eq_repr, Nat.toList_repr] at hmem
  have := Nat.isDigit_of_mem_toDigits (by decide) (by decide) hmem
  simp [h] at this

/-- A whole number is read from its digits. -/
lemma numberValue_natural {n : Nat} (h : (n : Int) ≤ Decimal.greatestInt64) :
    Reading.numberValue (toString n) = .ok (.integer n) := by
  have hwithin : Decimal.leastInt64 ≤ n ∧ (n : Int) ≤ Decimal.greatestInt64 :=
    ⟨Int.le_trans (by decide) (Int.natCast_nonneg n), h⟩
  have hint : Decimal.int64? (toString n) = some (n : Int) := by
    unfold Decimal.int64? Decimal.integerWithin?
    split
    · rename_i rest heq
      exact absurd (heq ▸ List.mem_cons_self) (not_mem_toString (c := '-') (by decide) n)
    · rename_i rest heq
      exact absurd (heq ▸ List.mem_cons_self) (not_mem_toString (c := '+') (by decide) n)
    · rw [Decimal.natural?_toString]
      simp [hwithin]
  rw [Reading.numberValue, hint]

/-- A whole number of an unsigned word is read from its digits. -/
lemma word64?_toString {n : Nat} (h : n < UInt64.size) :
    Decimal.word64? (toString n) = some n := by
  unfold Decimal.word64?
  split
  · rename_i rest heq
    exact absurd (heq ▸ List.mem_cons_self) (not_mem_toString (c := '+') (by decide) n)
  · simp only [String.ofList_toList, Decimal.natural?_toString]
    simp [h]

/-- A literal that can be read is an operand. -/
lemma constant_primary {value : Constant} (h : value.legible = true) :
    IsPrimary reserved inner [value.token] (.const value) := by
  cases value with
  | null => exact .null
  | boolean value =>
    cases value with
    | true => exact .yes
    | false => exact .no
  | integer n =>
    simp only [Constant.legible, Bool.and_eq_true, decide_eq_true_eq] at h
    obtain ⟨n, rfl⟩ := Int.eq_ofNat_of_zero_le h.1
    exact .number (numberValue_natural h.2)
  | real x =>
    simp only [Constant.legible, Bool.and_eq_true, decide_eq_true_eq] at h
    exact .number (by rw [Reading.numberValue, h.1.2, h.2])
  | text value => exact .text value

end Literals

/-! ### Names -/

section Names

variable {reserved : Reserved} {inner : Level}

lemma isPath_dottedTokens (reserved : Reserved) {parts : List String} (hne : parts ≠ [])
    (h : ∀ part ∈ parts, part ≠ "*") : IsPath reserved (reserved.dottedTokens parts) parts := by
  induction parts with
  | nil => exact absurd rfl hne
  | cons part rest ih =>
    rw [List.forall_mem_cons] at h
    have hpart : IsPart reserved (reserved.partToken part) part := by
      rw [Reserved.partToken, if_neg (by simpa using h.1)]
      exact reserved.isPart_token part
    cases rest with
    | nil => exact .last hpart
    | cons part' rest => exact .more hpart (ih (by simp) h.2)

lemma dottedTokens_asterisk (reserved : Reserved) {parts : List String} (hne : parts ≠ []) :
    reserved.dottedTokens (parts ++ ["*"]) =
      reserved.dottedTokens parts ++ [.sign ".", .sign "*"] := by
  induction parts with
  | nil => exact absurd rfl hne
  | cons part rest ih =>
    cases rest with
    | nil => rfl
    | cons part' rest =>
      have := ih (by simp)
      simp only [List.cons_append, Reserved.dottedTokens] at this ⊢
      rw [this]

/-- A variable that can be read and is no asterisk is an operand. -/
lemma variable_primary {v : Variable} (h : v.legible reserved = true)
    (hasterisk : v.isAsterisk = false) :
    IsPrimary reserved inner (reserved.dottedTokens v.parts) (.var v.bare) := by
  obtain ⟨parts, position, binding⟩ := v
  simp only [Variable.legible, Bool.and_eq_true, Option.any_eq_true, List.all_eq_true,
    bne_iff_ne] at h
  obtain ⟨⟨first, hfirst, hbegin⟩, hinit⟩ := h
  obtain ⟨rest, rfl⟩ := List.head?_eq_some_iff.mp hfirst
  have hparts : ∀ part ∈ first :: rest, part ≠ "*" := by
    have hlast : (first :: rest).getLast (by simp) ≠ "*" := by
      simpa [Variable.isAsterisk, Variable.fieldName, List.getLast?_eq_some_getLast] using hasterisk
    rw [← List.dropLast_append_getLast (l := first :: rest) (by simp)]
    simpa [or_imp, forall_and, hlast] using hinit
  have hpath := isPath_dottedTokens reserved (by simp) hparts
  have hform : (reserved.partToken first).isOneOf nameForms = false := by
    rw [Reserved.partToken, if_neg (by simpa using hparts first (by simp))]
    simpa [Reserved.mayBegin] using hbegin
  cases rest with
  | nil => exact .name hpath hform
  | cons part rest => exact .name hpath hform

/-- A variable that can be read and is an asterisk stands alone or after the parts of a name. -/
lemma asterisk_tokens {v : Variable} (h : v.legible reserved = true)
    (hasterisk : v.isAsterisk = true) :
    reserved.dottedTokens v.parts = [.sign "*"] ∧ v.bare = ⟨["*"], none, none⟩ ∨
      ∃ ts parts, IsPath reserved ts parts ∧
        reserved.dottedTokens v.parts = ts ++ [.sign ".", .sign "*"] ∧
        v.bare = ⟨parts ++ ["*"], none, none⟩ := by
  obtain ⟨parts, position, binding⟩ := v
  simp only [Variable.legible, Bool.and_eq_true, Option.any_eq_true, List.all_eq_true,
    bne_iff_ne] at h
  obtain ⟨⟨first, hfirst, -⟩, hinit⟩ := h
  have hne : parts ≠ [] := by
    rintro rfl
    simp at hfirst
  have hlast : parts.getLast hne = "*" := by
    simpa [Variable.isAsterisk, Variable.fieldName, List.getLast?_eq_some_getLast hne]
      using hasterisk
  obtain ⟨init, rfl⟩ : ∃ init, parts = init ++ ["*"] :=
    ⟨parts.dropLast, by rw [← hlast, List.dropLast_append_getLast]⟩
  rw [List.dropLast_concat] at hinit
  cases init with
  | nil => exact .inl ⟨rfl, rfl⟩
  | cons part rest =>
    exact .inr ⟨_, _, isPath_dottedTokens reserved (by simp) hinit,
      dottedTokens_asterisk reserved (by simp), rfl⟩

/-- A variable that can be read and is an asterisk is an argument of a call. -/
lemma asterisk_argument {v : Variable} (h : v.legible reserved = true)
    (hasterisk : v.isAsterisk = true) :
    IsArgument reserved inner (reserved.dottedTokens v.parts) (.var v.bare) := by
  rcases asterisk_tokens h hasterisk with ⟨htokens, hbare⟩ | ⟨ts, parts, hpath, htokens, hbare⟩
  · rw [htokens, hbare]
    exact .asterisk
  · rw [htokens, hbare]
    exact .qualified hpath

end Names

/-! ### Links -/

section Links

variable {reserved : Reserved} {inner inner' : Level}

/-- How tightly the first link binds; without any there is nothing to bind. -/
def strengthOf : List Link → Nat
  | [] => 0
  | link :: _ => link.strength

/-- The tokens of a link, in front of something that binds as tightly as `next` says. -/
inductive LinkDerived (inner : Level) (next : Nat) : Link → List Token → Prop where
  | question {op : UnaryOp} (hop : op.isQuestion = true) :
      LinkDerived inner next (.question op) (op.tokens [])
  | operand {op : BinaryOp} {right : Expr} {ts : List Token} (hop : op.asksMembership = false)
      (h : inner op.strength next ts right) :
      LinkDerived inner next (.operand op right) (op.tokens ++ ts)
  | members {op : BinaryOp} {items : List Expr} {ts : List Token} (hop : op.asksMembership = true)
      (h : Listed (inner 0 0) ts items) :
      LinkDerived inner next (.operand op (.list items))
        (op.tokens ++ .sign "(" :: (ts ++ [.sign ")"]))

/-- The tokens of several links, one after the other. -/
inductive LinksDerived (inner : Level) : List Link → List Token → Prop where
  | nil : LinksDerived inner [] []
  | cons {link : Link} {links : List Link} {ts ts' : List Token}
      (h : LinkDerived inner (strengthOf links) link ts) (hrest : LinksDerived inner links ts') :
      LinksDerived inner (link :: links) (ts ++ ts')

namespace LinkDerived

variable {next : Nat} {link : Link} {ts : List Token}

/-- Every link binds, but none of them more tightly than a sign does. -/
lemma strength_bounds (h : LinkDerived inner next link ts) :
    0 < link.strength ∧ link.strength ≤ signStrength := by
  cases h with
  | question => exact (by decide : 0 < nullStrength ∧ nullStrength ≤ signStrength)
  | @operand op => exact ⟨op.strength_pos, op.strength_le⟩
  | @members op => exact ⟨op.strength_pos, op.strength_le⟩

/-- An expression goes on with a link that binds more tightly than the bound. -/
lemma continues (h : LinkDerived inner next link ts) {bound follow : Nat} {e e' : Expr}
    {ts' : List Token} (hlt : bound < link.strength)
    (hmore : Continues inner bound follow next (link.join e) ts' e') :
    Continues inner bound follow link.strength e (ts ++ ts') e' := by
  cases h with
  | @question op hop =>
    cases op with
    | isNull => exact .isNull hlt hmore
    | isNotNull => exact .isNotNull hlt hmore
    | _ => exact absurd hop (by decide)
  | operand hop h =>
    rw [List.append_assoc]
    exact .operation hop hlt h hmore
  | members hop h =>
    simp only [List.append_assoc, List.cons_append, List.nil_append]
    exact .membership hop hlt h hmore

lemma imp (hle : ∀ b n ts e, inner b n ts e → inner' b n ts e)
    (h : LinkDerived inner next link ts) : LinkDerived inner' next link ts := by
  cases h with
  | question hop => exact .question hop
  | operand hop h => exact .operand hop (hle _ _ _ _ h)
  | members hop h => exact .members hop (h.imp fun _ _ h => hle _ _ _ _ h)

end LinkDerived

namespace LinksDerived

variable {links : List Link} {ts : List Token}

lemma imp (hle : ∀ b n ts e, inner b n ts e → inner' b n ts e) (h : LinksDerived inner links ts) :
    LinksDerived inner' links ts := by
  induction h with
  | nil => exact .nil
  | cons h _ ih => exact .cons (h.imp hle) ih

lemma strengthOf_le (h : LinksDerived inner links ts) : strengthOf links ≤ signStrength := by
  cases h with
  | nil => exact Nat.zero_le _
  | cons h _ => exact h.strength_bounds.2

/-- Under a bound an expression goes on with the tokens of the links that are taken. -/
lemma takeAbove (h : LinksDerived inner links ts) (bound : Nat) (e : Expr) :
    ∃ taken left, ts = taken ++ left ∧ LinksDerived inner (Expr.takeAbove bound e links).2 left ∧
      Continues inner bound (strengthOf (Expr.takeAbove bound e links).2) (strengthOf links) e taken
        (Expr.takeAbove bound e links).1 := by
  induction h generalizing e with
  | nil => exact ⟨[], [], rfl, .nil, .done (Nat.zero_le _)⟩
  | @cons link links ts ts' h hrest ih =>
    by_cases hlt : bound < link.strength
    · rw [Expr.takeAbove_cons_of_lt hlt]
      obtain ⟨taken, left, rfl, hleft, hcontinues⟩ := ih (link.join e)
      exact ⟨ts ++ taken, left, by simp, hleft, h.continues hlt hcontinues⟩
    · have hle := Nat.le_of_not_lt hlt
      rw [Expr.takeAbove_cons_of_le hle]
      exact ⟨[], ts ++ ts', rfl, .cons h hrest, .done hle⟩

/-- Under the lowest bound every link is taken. -/
lemma takeAbove_zero (h : LinksDerived inner links ts) (e : Expr) :
    Continues inner 0 0 (strengthOf links) e ts (Expr.takeAbove 0 e links).1 := by
  induction h generalizing e with
  | nil => exact .done (Nat.zero_le _)
  | cons h hrest ih =>
    rw [Expr.takeAbove_cons_of_lt h.strength_bounds.1]
    exact h.continues h.strength_bounds.1 (ih _)

end LinksDerived

end Links

/-! ### Operands -/

section Operands

variable {reserved : Reserved}

/-- The tokens of an operand with links after it: the first ones are those of the operand that is
read first, and the others those of the links that are left. -/
def SpreadDerived (reserved : Reserved) (e : Expr) : Prop :=
  ∀ (inside depth : Nat) (links : List Link) (ts : List Token), inside + e.signs ≤ depth →
    e.operandLevels ≤ depth + 1 → LinksDerived (derives reserved inside) links ts →
    ∃ used left, enclosedTokens e.isOperation (e.tokens reserved) ++ ts = used ++ left ∧
      LinksDerived (derives reserved inside) (e.spread links).2 left ∧
      IsOperand reserved (derives reserved depth) (strengthOf (e.spread links).2) used
        (e.spread links).1

/-- The tokens of an expression are derived, as the expression that its text is read as. -/
def TextDerived (reserved : Reserved) (e : Expr) : Prop :=
  ∀ depth, e.levels ≤ depth → derives reserved depth 0 0 (e.tokens reserved) e.regrouped

/-- An expression has more levels than signs in front of it. -/
lemma signs_lt_levels {asterisk : Bool} (e : Expr) (h : e.legible reserved asterisk = true) :
    e.signs < e.levels := by
  cases e with
  | const value => exact Nat.one_pos
  | var v => exact Nat.one_pos
  | unary op arg =>
    simp only [Expr.legible, Bool.and_eq_true] at h
    have := signs_lt_levels arg h.1.1.1
    simp only [Expr.signs, Expr.levels]
    omega
  | binary family op left right =>
    simp only [Expr.signs, Expr.levels]
    omega
  | call kind name args => exact Nat.succ_pos _
  | underName expr name explicitAs => simp [Expr.legible] at h
  | list args =>
    cases args with
    | nil => simp [Expr.legible] at h
    | cons arg rest =>
      simp only [Expr.legible, Expr.legibleAll, Bool.and_eq_true] at h
      have := signs_lt_levels arg h.2.1.1
      simp only [Expr.signs, Expr.levels, Expr.levelsOfAll]
      omega

lemma levels_le_levelsOfAll {arg : Expr} {args : List Expr} (h : arg ∈ args) :
    arg.levels ≤ Expr.levelsOfAll args := by
  induction args with
  | nil => simp at h
  | cons arg' rest ih =>
    rw [Expr.levelsOfAll]
    rcases List.mem_cons.mp h with rfl | h
    · exact Nat.le_max_left _ _
    · exact Nat.le_trans (ih h) (Nat.le_max_right _ _)

lemma tokens_mem_tokensOfAll {arg : Expr} {args : List Expr} (h : arg ∈ args) :
    arg.tokens reserved ∈ Expr.tokensOfAll reserved args := by
  induction args with
  | nil => simp at h
  | cons arg' rest ih =>
    rw [Expr.tokensOfAll]
    rcases List.mem_cons.mp h with rfl | h
    · exact List.mem_cons_self
    · exact List.mem_cons_of_mem _ (ih h)

/-- An operand that goes on under a bound. -/
lemma SpreadDerived.above {e : Expr} (h : SpreadDerived reserved e) (bound : Nat) {depth : Nat}
    (hsigns : e.signs ≤ depth) (hlevels : e.operandLevels ≤ depth + 1) :
    ∃ used left, enclosedTokens e.isOperation (e.tokens reserved) = used ++ left ∧
      LinksDerived (derives reserved 0) (Expr.takeAbove bound (e.spread []).1 (e.spread []).2).2 left ∧
      derives reserved (depth + 1) bound
        (strengthOf (Expr.takeAbove bound (e.spread []).1 (e.spread []).2).2) used
        (Expr.takeAbove bound (e.spread []).1 (e.spread []).2).1 := by
  obtain ⟨used, left, htokens, hleft, hoperand⟩ := h 0 depth [] [] (by omega) hlevels .nil
  obtain ⟨taken, left, rfl, hleft', hcontinues⟩ := hleft.takeAbove bound (e.spread []).1
  refine ⟨used ++ taken, left, by simpa using htokens, hleft', ?_⟩
  exact .mk hoperand (hcontinues.imp (derives_mono (Nat.zero_le _)))

/-- What is read of an operand is read of the whole expression. -/
lemma SpreadDerived.text {e : Expr} (h : SpreadDerived reserved e) (hoperation : e.isOperation = false)
    (hsigns : e.signs < e.levels) : TextDerived reserved e := by
  intro depth hle
  obtain ⟨depth, rfl⟩ : ∃ n, depth = n + 1 := ⟨depth - 1, by omega⟩
  have hlevels : e.operandLevels ≤ depth + 1 := by simpa [Expr.operandLevels, hoperation] using hle
  obtain ⟨used, left, htokens, hleft, hoperand⟩ := h 0 depth [] [] (by omega) hlevels .nil
  have hcontinues := hleft.takeAbove_zero (e.spread []).1
  have hall := Above.mk hoperand (hcontinues.imp (derives_mono (Nat.zero_le depth)))
  rw [← htokens, List.append_nil, hoperation] at hall
  exact hall

/-- In parentheses an operation is an operand. -/
lemma TextDerived.spread {e : Expr} (h : TextDerived reserved e) (hoperation : e.isOperation = true) :
    SpreadDerived reserved e := by
  intro inside depth links ts _ hlevels hlinks
  have hle : e.levels ≤ depth := by simpa [Expr.operandLevels, hoperation] using hlevels
  have hspread : e.spread links = (e.regrouped, links) := by
    cases e with
    | binary family op left right => simp [Expr.regrouped, Expr.spread]
    | _ => simp [Expr.isOperation] at hoperation
  rw [hspread]
  refine ⟨enclosedTokens e.isOperation (e.tokens reserved), ts, rfl, hlinks, .primary ?_⟩
  rw [hoperation]
  exact .nested (h depth hle)

/-- A question about null follows an operand. -/
lemma SpreadDerived.question {arg : Expr} (h : SpreadDerived reserved arg) {op : UnaryOp}
    (hop : op.isQuestion = true) : SpreadDerived reserved (.unary op arg) := by
  intro inside depth links ts hsigns hlevels hlinks
  have hlevels' : arg.operandLevels ≤ depth + 1 := by
    simpa [Expr.operandLevels, Expr.levels, Expr.isOperation, hop] using hlevels
  rw [Expr.signs, if_pos hop, Nat.zero_add] at hsigns
  obtain ⟨used, left, htokens, hleft, hoperand⟩ :=
    h inside depth _ _ hsigns hlevels' (.cons (.question hop) hlinks)
  rw [Expr.spread, if_pos hop]
  refine ⟨used, left, ?_, hleft, hoperand⟩
  rw [← htokens]
  cases op with
  | isNull => simp [Expr.isOperation, enclosedTokens, Expr.tokens, UnaryOp.tokens]
  | isNotNull => simp [Expr.isOperation, enclosedTokens, Expr.tokens, UnaryOp.tokens]
  | _ => exact absurd hop (by decide)

/-- A sign or a negation comes before an operand. -/
lemma SpreadDerived.lead {arg : Expr} (h : SpreadDerived reserved arg) {op : UnaryOp}
    (hop : op.isQuestion = false) (hnot : op ≠ .bitwiseNot) :
    SpreadDerived reserved (.unary op arg) := by
  intro inside depth links ts hsigns hlevels hlinks
  have hlevels' : 1 + arg.operandLevels ≤ depth + 1 := by
    simpa [Expr.operandLevels, Expr.levels, Expr.isOperation, hop] using hlevels
  rw [Expr.signs, if_neg (by simp [hop])] at hsigns
  obtain ⟨depth, rfl⟩ : ∃ n, depth = n + 1 := ⟨depth - 1, by omega⟩
  obtain ⟨used, left, htokens, hleft, hoperand⟩ :=
    h inside depth links ts (by omega) (by omega) hlinks
  have htokens' (sign : Token) (hsign : op.tokens (enclosedTokens arg.isOperation
      (arg.tokens reserved)) = sign :: enclosedTokens arg.isOperation (arg.tokens reserved)) :
      enclosedTokens (Expr.unary op arg).isOperation ((Expr.unary op arg).tokens reserved) ++ ts =
        sign :: (used ++ left) := by
    rw [← htokens, Expr.tokens, hsign]
    rfl
  have hsigned : derives reserved (depth + 1) signStrength (strengthOf (arg.spread links).2) used
      (arg.spread links).1 := by
    have := Above.mk hoperand (.done hleft.strengthOf_le)
    rwa [List.append_nil] at this
  obtain ⟨taken, left', rfl, hleft', hcontinues⟩ := hleft.takeAbove notStrength (arg.spread links).1
  have hnegated := Above.mk hoperand (hcontinues.imp (derives_mono (by omega : inside ≤ depth)))
  rw [Expr.spread, if_neg (by simp [hop])]
  cases op with
  | plus =>
    exact ⟨.sign "+" :: used, taken ++ left', by rw [htokens' _ rfl]; rfl, hleft, .plus hsigned⟩
  | minus =>
    exact ⟨.sign "-" :: used, taken ++ left', by rw [htokens' _ rfl]; rfl, hleft, .minus hsigned⟩
  | not =>
    exact ⟨kw "NOT" :: (used ++ taken), left', by rw [htokens' _ rfl]; simp, hleft',
      .not hnegated⟩
  | bitwiseNot => exact absurd rfl hnot
  | isNull => exact absurd hop (by decide)
  | isNotNull => exact absurd hop (by decide)

/-- The right side of an operation follows its left operand. -/
lemma TextDerived.binary {left right operand : Expr} (h : SpreadDerived reserved left)
    {family : Family} {op : BinaryOp} {rest : List Link}
    (htake : Expr.takeAbove op.strength (right.spread []).1 (right.spread []).2 = (operand, rest))
    (hlinks : LinksDerived (derives reserved right.operandLevels) (.operand op operand :: rest)
      (op.tokens ++ enclosedTokens (Expr.enclosedAfter op right) (right.tokens reserved))) :
    TextDerived reserved (.binary family op left right) := by
  intro depth hle
  have hle' : max left.operandLevels (left.signs + 1 + right.operandLevels) ≤ depth := hle
  rw [max_le_iff] at hle'
  obtain ⟨depth, rfl⟩ : ∃ n, depth = n + 1 := ⟨depth - 1, by omega⟩
  obtain ⟨used, left', htokens, hleft, hoperand⟩ :=
    h right.operandLevels depth _ _ (by omega) hle'.1 hlinks
  have hcontinues := hleft.takeAbove_zero (left.spread (.operand op operand :: rest)).1
  have hall := Above.mk hoperand (hcontinues.imp (derives_mono (by omega)))
  rw [← htokens] at hall
  have hread : (Expr.binary family op left right).regrouped =
      (Expr.takeAbove 0 (left.spread (.operand op operand :: rest)).1
        (left.spread (.operand op operand :: rest)).2).1 := by
    simp [Expr.regrouped, Expr.spread, htake]
  rw [hread]
  exact hall

/-- An operator stands between two operands. -/
lemma TextDerived.operation {left right : Expr} (h : SpreadDerived reserved left)
    (h' : SpreadDerived reserved right) (hsigns : right.signs < right.levels) {family : Family}
    {op : BinaryOp} (hop : op.asksMembership = false) :
    TextDerived reserved (.binary family op left right) := by
  obtain ⟨depth, hdepth⟩ : ∃ n, right.operandLevels = n + 1 :=
    ⟨right.operandLevels - 1, by rw [Expr.operandLevels]; omega⟩
  have hle : right.signs ≤ depth := by
    rw [Expr.operandLevels] at hdepth
    omega
  obtain ⟨used, left', htokens, hleft, hderives⟩ :=
    h'.above op.strength hle (Nat.le_of_eq hdepth)
  refine .binary h rfl ?_
  have henclosed : Expr.enclosedAfter op right = right.isOperation := by
    simp [Expr.enclosedAfter, hop]
  rw [hdepth, henclosed, htokens, ← List.append_assoc]
  exact .cons (.operand hop hderives) (hleft.imp (derives_mono (Nat.zero_le _)))

/-- Expressions with commas between them are derived one by one. -/
lemma listed_of_forall {one : List Token → Expr → Prop} {args : List Expr} (hne : args ≠ [])
    (h : ∀ arg ∈ args, one (arg.tokens reserved) arg.regrouped) :
    Listed one (listed (Expr.tokensOfAll reserved args)) (Expr.regroupedAll args) := by
  induction args with
  | nil => exact absurd rfl hne
  | cons arg rest ih =>
    rw [List.forall_mem_cons] at h
    cases rest with
    | nil => exact .last h.1
    | cons arg' rest => exact .more h.1 (ih (by simp) h.2)

/-- A question of membership follows an operand. -/
lemma TextDerived.membership {left : Expr} {args : List Expr} (h : SpreadDerived reserved left)
    (hne : args ≠ []) (hargs : ∀ arg ∈ args, TextDerived reserved arg) {family : Family}
    {op : BinaryOp} (hop : op.asksMembership = true) :
    TextDerived reserved (.binary family op left (.list args)) := by
  have htake : Expr.takeAbove op.strength ((Expr.list args).spread []).1
      ((Expr.list args).spread []).2 = (.list (Expr.regroupedAll args), []) := by
    simp [Expr.spread]
  refine .binary h htake ?_
  have hlevels : (Expr.list args).operandLevels = Expr.levelsOfAll args := rfl
  have henclosed : Expr.enclosedAfter op (.list args) = true := by
    simp [Expr.enclosedAfter, hop, Expr.isList]
  have hlisted := listed_of_forall hne fun arg harg =>
    hargs arg harg (Expr.levelsOfAll args) (levels_le_levelsOfAll harg)
  simpa [hlevels, henclosed, enclosedTokens, Expr.tokens] using
    LinksDerived.cons (.members hop hlisted) .nil

/-- A call is an operand. -/
lemma SpreadDerived.call {name : String} {args : List Expr} (hcall : reserved.mayCall name = true)
    (hargs : ∀ arg ∈ args, ∀ depth, arg.levels ≤ depth →
      IsArgument reserved (derives reserved depth) (arg.tokens reserved) arg.regrouped) :
    SpreadDerived reserved (.call (Reading.callKind name) name args) := by
  intro inside depth links ts _ hlevels hlinks
  simp only [Reserved.mayCall, Bool.and_eq_true, Bool.not_eq_true'] at hcall
  have hname : IsPart reserved (.word name none) name := .bare hcall.1
  refine ⟨_, ts, rfl, hlinks, .primary ?_⟩
  cases args with
  | nil => exact .emptyCall hname hcall.2
  | cons arg rest =>
    have hle : Expr.levelsOfAll (arg :: rest) ≤ depth := by
      simpa [Expr.operandLevels, Expr.levels, Expr.isOperation] using hlevels
    exact .call hname hcall.2 (listed_of_forall (by simp) fun arg harg =>
      hargs arg harg depth (Nat.le_trans (levels_le_levelsOfAll harg) hle))

/-- What is legible where an asterisk may be is one, or is legible where none may be. -/
lemma legible_cases {asterisk : Bool} {e : Expr} (h : e.legible reserved asterisk = true) :
    e.legible reserved false = true ∨ asterisk = true ∧
      ∃ v : Variable, e = .var v ∧ v.legible reserved = true ∧ v.isAsterisk = true := by
  cases e with
  | var v =>
    simp only [Expr.legible, Bool.and_eq_true, Bool.or_eq_true, Bool.not_eq_true'] at h
    cases hasterisk : v.isAsterisk with
    | true => exact .inr ⟨by simpa [hasterisk] using h.2, v, rfl, h.1, hasterisk⟩
    | false => exact .inl (by simp [Expr.legible, h.1, hasterisk])
  | _ => exact .inl h

/-- An expression whose text is derived is an argument of a call, and so is an asterisk. -/
lemma isArgument_of_derived {arg : Expr}
    (h : TextDerived reserved arg ∨ true = true ∧ ∃ v : Variable, arg = .var v ∧
      v.legible reserved = true ∧ v.isAsterisk = true)
    (hnamed : beginsNamed (arg.tokens reserved) = false) {depth : Nat} (hle : arg.levels ≤ depth) :
    IsArgument reserved (derives reserved depth) (arg.tokens reserved) arg.regrouped := by
  rcases h with htext | ⟨-, v, rfl, hv, hasterisk⟩
  · exact .term (htext depth hle) hnamed
  · exact asterisk_argument hv hasterisk

mutual

/-- **Operands.** The tokens of an expression that can be read are derived. -/
theorem Expr.derived (e : Expr) (h : e.legible reserved false = true) (hlist : e.isList = false) :
    SpreadDerived reserved e ∧ TextDerived reserved e := by
  have hsigns := signs_lt_levels e h
  cases e with
  | const value =>
    have hspread : SpreadDerived reserved (.const value) :=
      fun _ _ _ ts _ _ hlinks => ⟨_, ts, rfl, hlinks, .primary (constant_primary h)⟩
    exact ⟨hspread, hspread.text rfl hsigns⟩
  | var v =>
    simp only [legible, Bool.false_or, Bool.and_eq_true, Bool.not_eq_true'] at h
    have hspread : SpreadDerived reserved (.var v) :=
      fun _ _ _ ts _ _ hlinks => ⟨_, ts, rfl, hlinks, .primary (variable_primary h.1 h.2)⟩
    exact ⟨hspread, hspread.text rfl hsigns⟩
  | unary op arg =>
    simp only [legible, Bool.and_eq_true, Bool.not_eq_true', bne_iff_ne] at h
    obtain ⟨⟨⟨harg, hlist⟩, hop⟩, -⟩ := h
    have hspread : SpreadDerived reserved (.unary op arg) := by
      have hinside := (Expr.derived arg harg hlist).1
      by_cases hquestion : op.isQuestion = true
      · exact hinside.question hquestion
      · exact hinside.lead (by simpa using hquestion) hop
    exact ⟨hspread, hspread.text rfl hsigns⟩
  | binary family op left right =>
    simp only [legible, Bool.and_eq_true, Bool.not_eq_true', beq_iff_eq] at h
    obtain ⟨⟨⟨⟨-, hleft⟩, hlist⟩, hright⟩, hop⟩ := h
    have hfirst := (Expr.derived left hleft hlist).1
    have htext : TextDerived reserved (.binary family op left right) := by
      by_cases hmember : right.isList = true
      · cases right with
        | list args =>
          simp only [legible, Bool.and_eq_true, Bool.not_eq_true', List.isEmpty_eq_false_iff] at hright
          refine .membership hfirst hright.1 (fun arg harg => ?_) (hop ▸ hmember)
          simpa using Expr.allDerived args hright.2 arg harg
        | _ => simp [isList] at hmember
      · rw [Bool.not_eq_true] at hmember
        exact .operation hfirst (Expr.derived right hright hmember).1 (signs_lt_levels right hright)
          (hop ▸ hmember)
    exact ⟨htext.spread rfl, htext⟩
  | call kind name args =>
    simp only [legible, Bool.and_eq_true, beq_iff_eq] at h
    obtain ⟨⟨⟨rfl, hcall⟩, hargs⟩, hnamed⟩ := h
    have hspread : SpreadDerived reserved (.call (Reading.callKind name) name args) := by
      refine .call hcall fun arg harg depth hle => ?_
      have hbegins := List.all_eq_true.mp hnamed _ (tokens_mem_tokensOfAll harg)
      exact isArgument_of_derived (Expr.allDerived args hargs arg harg) (by simpa using hbegins) hle
    exact ⟨hspread, hspread.text rfl hsigns⟩
  | underName expr name explicitAs => simp [legible] at h
  | list args => simp [isList] at hlist

/-- Of several expressions that can be read, the tokens of each are derived unless it is an
asterisk. -/
theorem Expr.allDerived {asterisk : Bool} (args : List Expr)
    (h : legibleAll reserved asterisk args = true) :
    ∀ arg ∈ args, TextDerived reserved arg ∨ asterisk = true ∧
      ∃ v : Variable, arg = .var v ∧ v.legible reserved = true ∧ v.isAsterisk = true := by
  cases args with
  | nil => simp
  | cons arg rest =>
    simp only [legibleAll, Bool.and_eq_true, Bool.not_eq_true'] at h
    obtain ⟨⟨harg, hlist⟩, hrest⟩ := h
    rw [List.forall_mem_cons]
    refine ⟨?_, Expr.allDerived rest hrest⟩
    exact (legible_cases harg).imp_left fun harg => (Expr.derived arg harg hlist).2

end

end Operands

end SelectBinding
