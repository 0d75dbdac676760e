import SelectBinding.Proofs.Sql.Pieces

/-!
Texts as they are written, read back by the tokenizers of the dialects.

A text is written in the same way whatever the dialect: in single quotes, each quote inside it
written twice. That is what all dialects read it by, but in one of them a backslash takes the
character after it along, so a text with a backslash is read there as another one, or not at all.
-/

namespace SelectBinding.Sql.Tokenizer

/-- The text is exactly one token, a string in single quotes, and this string is `value`. -/
def ReadsAsText (dialect : Dialect) (text value : String) : Prop :=
  ∃ located, tokenize dialect text = .ok located ∧
    located.map Located.token = [.string .plain value]

/-- Where a backslash is a character like any other, or where there is none, a text is read back. -/
lemma readsAsText_render {dialect : Dialect} {value : String}
    (h : dialect.escapesInText = false ∨ '\\' ∉ value.toList) :
    ReadsAsText dialect (Constant.text value).render value :=
  ((spells_textLiteral value h).lexes (by simp [EndsTerm])).tokenize

/-! ### Backslashes -/

section Backslash

variable {c : Char} {cs s rest : List Char}

lemma upToQuote_plain_iff (hquote : c ≠ '\'') (hbackslash : c ≠ '\\') :
    upToQuote '\'' true (c :: cs) = some (s, rest) ↔
      ∃ s', upToQuote '\'' true cs = some (s', rest) ∧ c :: s' = s := by
  rw [upToQuote.eq_def]
  simp [hquote, hbackslash]

lemma upToQuote_pair_iff :
    upToQuote '\'' true ('\'' :: '\'' :: cs) = some (s, rest) ↔
      ∃ s', upToQuote '\'' true cs = some (s', rest) ∧ '\'' :: s' = s := by
  rw [upToQuote.eq_def]
  simp

lemma upToQuote_escape_iff :
    upToQuote '\'' true ('\\' :: c :: cs) = some (s, rest) ↔
      ∃ s', upToQuote '\'' true cs = some (s', rest) ∧ afterBackslash c :: s' = s := by
  rw [upToQuote.eq_def]
  simp

/-- The characters of a text between its quotes, as they are written. -/
def doubled : List Char → List Char
  | [] => []
  | c :: cs => if c = '\'' then '\'' :: '\'' :: doubled cs else c :: doubled cs

lemma flatMap_eq_doubled (cs : List Char) :
    (cs.flatMap fun c => if c = '\'' then ['\'', '\''] else [c]) = doubled cs := by
  induction cs with
  | nil => rfl
  | cons c cs ih => by_cases hc : c = '\'' <;> simp [doubled, hc, ih]

/-- What is read once a backslash took the first one of two quotes along: the second one makes a
pair with the first quote of the next two, or ends the text. -/
lemma length_le_of_upToQuote_torn (cs : List Char) :
    ∀ s, upToQuote '\'' true ('\'' :: (doubled cs ++ ['\''])) = some (s, rest) →
      s.length ≤ cs.length + 1 := by
  induction cs with
  | nil => simp [doubled, upToQuote]
  | cons c cs ih =>
    intro s h
    by_cases hc : c = '\''
    · simp only [doubled, if_pos hc, List.cons_append] at h
      obtain ⟨s', hmore, rfl⟩ := upToQuote_pair_iff.mp h
      have := ih s' hmore
      simp only [List.length_cons]
      omega
    · simp only [doubled, if_neg hc, List.cons_append, upToQuote, if_true, Option.some.injEq,
        Prod.mk.injEq] at h
      simp [← h.1]

/-- What a text that is written is read by, after its first character: as it goes on, or after the
character that a backslash takes along, which may be the first one of two quotes. -/
lemma upToQuote_written (h : upToQuote '\'' true (doubled (c :: cs) ++ ['\'']) = some (s, rest)) :
    (∃ s', c ≠ '\\' ∧ s = c :: s' ∧
      upToQuote '\'' true (doubled cs ++ ['\'']) = some (s', rest)) ∨
    (∃ d cs' s', c = '\\' ∧ cs = d :: cs' ∧ s = afterBackslash d :: s' ∧
      upToQuote '\'' true (doubled cs' ++ ['\'']) = some (s', rest)) ∨
    ∃ cs' s', c = '\\' ∧ cs = '\'' :: cs' ∧ s = '\'' :: s' ∧
      upToQuote '\'' true ('\'' :: (doubled cs' ++ ['\''])) = some (s', rest) := by
  by_cases hquote : c = '\''
  · simp only [doubled, if_pos hquote, List.cons_append] at h
    obtain ⟨s', hmore, rfl⟩ := upToQuote_pair_iff.mp h
    exact .inl ⟨s', by simp [hquote], by rw [hquote], hmore⟩
  simp only [doubled, if_neg hquote, List.cons_append] at h
  by_cases hbackslash : c = '\\'
  · subst hbackslash
    obtain _ | ⟨d, cs⟩ := cs
    · simp [doubled, upToQuote] at h
    by_cases hd : d = '\''
    · simp only [doubled, if_pos hd, List.cons_append] at h
      obtain ⟨s', hmore, rfl⟩ := upToQuote_escape_iff.mp h
      exact .inr (.inr ⟨cs, s', rfl, by rw [hd], rfl, hmore⟩)
    · simp only [doubled, if_neg hd, List.cons_append] at h
      obtain ⟨s', hmore, rfl⟩ := upToQuote_escape_iff.mp h
      exact .inr (.inl ⟨d, cs, s', rfl, rfl, rfl, hmore⟩)
  · obtain ⟨s', hmore, rfl⟩ := (upToQuote_plain_iff hquote hbackslash).mp h
    exact .inl ⟨s', hbackslash, rfl, hmore⟩

/-- What is read of a text that is written is no longer than the text. -/
lemma length_le_of_upToQuote : ∀ cs s : List Char,
    upToQuote '\'' true (doubled cs ++ ['\'']) = some (s, rest) → s.length ≤ cs.length
  | [], s, h => by
    simp only [doubled, List.nil_append, upToQuote, if_true, Option.some.injEq,
      Prod.mk.injEq] at h
    simp [← h.1]
  | c :: cs, s, h => by
    rcases upToQuote_written h with ⟨s', -, rfl, hmore⟩ | ⟨d, cs', s', -, rfl, rfl, hmore⟩ |
      ⟨cs', s', -, rfl, rfl, hmore⟩
    · have := length_le_of_upToQuote cs s' hmore
      simpa using this
    · have := length_le_of_upToQuote cs' s' hmore
      simp only [List.length_cons]
      omega
    · have := length_le_of_upToQuote_torn cs' s' hmore
      simp only [List.length_cons]
      omega

/-- A text that is read back has no backslash: the first one would have to stand before another one,
and then too little would be left to read. -/
lemma not_mem_of_upToQuote (cs : List Char) :
    upToQuote '\'' true (doubled cs ++ ['\'']) = some (cs, rest) → '\\' ∉ cs := by
  induction cs with
  | nil => simp
  | cons c cs ih =>
    intro h
    rcases upToQuote_written h with ⟨s', hc, hs, hmore⟩ | ⟨d, cs', s', rfl, rfl, hs, hmore⟩ |
      ⟨cs', s', rfl, rfl, hs, -⟩
    · obtain ⟨-, rfl⟩ := List.cons.inj hs
      simpa [Ne.symm hc] using ih hmore
    · obtain ⟨-, rfl⟩ := List.cons.inj hs
      have := length_le_of_upToQuote cs' _ hmore
      simp only [List.length_cons] at this
      omega
    · exact absurd (List.cons.inj hs).1 (by decide)

end Backslash

/-! ### The dialect with backslashes -/

/-- A text that is read back there is read up to the quote that ends it. -/
lemma upToQuote_of_readsAsText {value : String}
    (h : ReadsAsText .mysql (Constant.text value).render value) :
    ∃ rest, upToQuote '\'' true (doubled value.toList ++ ['\'']) = some (value.toList, rest) := by
  obtain ⟨located, hlocated, htokens⟩ := h
  rw [tokenize, Constant.render, toList_textLiteral, flatMap_eq_doubled,
    List.length_cons] at hlocated
  have hkind : ('\'', StringKind.plain) ∈ textQuotes := by decide
  obtain ⟨s, rest, more, hread, hs⟩ := tokens_text hkind hlocated
  obtain ⟨rfl, -⟩ : String.ofList s = value ∧ more = [] := by simpa [hs] using htokens
  exact ⟨rest, by rw [hread, String.toList_ofList]⟩

/-- **Written texts.** A text as it is written is read as that one text by every dialect in which a
backslash is a character like any other; by the other one exactly when it has no backslash. -/
theorem readsAsText_render_iff (dialect : Dialect) (value : String) :
    ReadsAsText dialect (Constant.text value).render value ↔
      dialect ≠ .mysql ∨ '\\' ∉ value.toList := by
  constructor
  · intro h
    rw [or_iff_not_imp_left, not_not]
    rintro rfl
    obtain ⟨rest, hread⟩ := upToQuote_of_readsAsText h
    exact not_mem_of_upToQuote _ hread
  · intro h
    refine readsAsText_render (h.imp_left fun hdialect => ?_)
    cases dialect <;> first | rfl | contradiction

/-- A backslash at the end of a text takes the quote along that should end it. -/
theorem closing_quote_taken :
    ¬ ReadsAsText .mysql (Constant.text "a\\").render "a\\" := by
  intro h
  obtain ⟨rest, hread⟩ := upToQuote_of_readsAsText h
  exact not_mem_of_upToQuote _ hread (by decide)

end SelectBinding.Sql.Tokenizer
