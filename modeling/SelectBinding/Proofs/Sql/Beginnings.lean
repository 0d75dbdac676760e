import SelectBinding.Proofs.Sql.Words

/-!
How derived terms begin.
-/

namespace SelectBinding.Sql.Grammar

/-- The words that no term begins with. -/
def notFirst : List String :=
  ["SELECT", "WITH", "EXISTS", "ALL", "ANY", "SOME", "DISTINCT", "TOP"]

/-- The signs that no term begins with, of those that matter. -/
def notFirstSigns : List Token :=
  [.sign ")", .sign "."]

section First

variable {reserved : Reserved} {inner : Level}

lemma IsPath.first {ts : List Token} {parts : List String} (h : IsPath reserved ts parts) :
    ∃ t ts' part, ts = t :: ts' ∧ IsPart reserved t part := by
  cases h with
  | last h => exact ⟨_, _, _, rfl, h⟩
  | more h _ => exact ⟨_, _, _, rfl, h⟩

/-- A token that is none of the keywords one by one is not one of them. -/
lemma isOneOf_of_forall {t : Token} {words : List String}
    (h : ∀ word ∈ words, t.isKeyword word = false) : t.isOneOf words = false := by
  unfold Token.isOneOf
  cases hk : t.keyword? with
  | none => rfl
  | some word =>
    simp only [Option.any_some, List.contains_eq_mem, decide_eq_false_iff_not]
    intro hword
    simpa [Token.isKeyword, hk] using h word hword

lemma IsPart.not_first {t : Token} {part : String} (h : IsPart reserved t part)
    (hreserved : reserved.IsComplete) (hany : t.isKeyword "ANY" = false)
    (hsome : t.isKeyword "SOME" = false) : t.isOneOf notFirst = false := by
  have hwords : ∀ word ∈ notFirst, word = "ANY" ∨ word = "SOME" ∨ word ∈ quotedWords := by decide
  refine isOneOf_of_forall fun word hword => ?_
  rcases hwords word hword with rfl | rfl | hquoted
  · exact hany
  · exact hsome
  · exact h.not_keyword hreserved hquoted

lemma isOneOf_of_subset {t : Token} {words words' : List String} (h : t.isOneOf words = false)
    (hsub : ∀ word ∈ words', word ∈ words) : t.isOneOf words' = false := by
  unfold Token.isOneOf at *
  cases hk : t.keyword? with
  | none => rfl
  | some word =>
    simp only [hk, Option.any_some, List.contains_eq_mem, decide_eq_false_iff_not] at h ⊢
    exact fun hmem => h (hsub word hmem)

/-- A term begins with no word of a query and with none that quantifies. -/
lemma IsPrimary.first (hreserved : reserved.IsComplete) {ts : List Token} {e : Expr}
    (h : IsPrimary reserved inner ts e) :
    ∃ t ts', ts = t :: ts' ∧ t.isOneOf notFirst = false ∧ t ∉ notFirstSigns := by
  cases h with
  | null => exact ⟨_, _, rfl, by decide, by decide⟩
  | yes => exact ⟨_, _, rfl, by decide, by decide⟩
  | no => exact ⟨_, _, rfl, by decide, by decide⟩
  | number => exact ⟨_, _, rfl, rfl, by simp [notFirstSigns]⟩
  | text => exact ⟨_, _, rfl, rfl, by simp [notFirstSigns]⟩
  | @name t ts parts h hform =>
    obtain ⟨t', ts', part, heq, hpart⟩ := h.first
    obtain ⟨rfl, rfl⟩ := List.cons.inj heq
    obtain ⟨quote, hword⟩ := hpart.eq_word
    refine ⟨t, ts, rfl, hpart.not_first hreserved (isKeyword_of_not_isOneOf hform (by decide))
      (isKeyword_of_not_isOneOf hform (by decide)), by simp [hword, notFirstSigns]⟩
  | emptyCall hname hform =>
    exact ⟨_, _, rfl, hname.not_first hreserved (isKeyword_of_not_isOneOf hform (by decide))
      (isKeyword_of_not_isOneOf hform (by decide)), by simp [notFirstSigns]⟩
  | call hname hform =>
    exact ⟨_, _, rfl, hname.not_first hreserved (isKeyword_of_not_isOneOf hform (by decide))
      (isKeyword_of_not_isOneOf hform (by decide)), by simp [notFirstSigns]⟩
  | nested => exact ⟨_, _, rfl, rfl, by simp [notFirstSigns]⟩

lemma IsOperand.first (hreserved : reserved.IsComplete) {next : Nat} {ts : List Token} {e : Expr}
    (h : IsOperand reserved inner next ts e) :
    ∃ t ts', ts = t :: ts' ∧ t.isOneOf notFirst = false ∧ t ∉ notFirstSigns := by
  cases h with
  | primary h => exact h.first hreserved
  | plus => exact ⟨_, _, rfl, rfl, by simp [notFirstSigns]⟩
  | minus => exact ⟨_, _, rfl, rfl, by simp [notFirstSigns]⟩
  | not => exact ⟨_, _, rfl, by decide, by simp [notFirstSigns]⟩

lemma derives_first (hreserved : reserved.IsComplete) {depth bound next : Nat} {ts : List Token}
    {e : Expr} (h : derives reserved depth bound next ts e) :
    ∃ t ts', ts = t :: ts' ∧ t.isOneOf notFirst = false ∧ t ∉ notFirstSigns := by
  cases depth with
  | zero => exact h.elim
  | succ depth =>
    obtain ⟨hoperand, -⟩ := h
    obtain ⟨t, ts', rfl, hfirst⟩ := hoperand.first hreserved
    exact ⟨t, _, rfl, hfirst⟩

end First

end SelectBinding.Sql.Grammar
