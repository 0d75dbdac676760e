import SelectBinding.Proofs.Names
import SelectBinding.Proofs.Sql.Derivation

/-!
Names that are written bare are no words of the grammar.
-/

namespace SelectBinding

/-- The dictionary has every word that is always reserved. -/
def Reserved.IsComplete (reserved : Reserved) : Prop :=
  ∀ word ∈ Reserved.builtin.words, word ∈ reserved.words

lemma Reserved.isComplete_withExtra (more : List String) :
    (Reserved.builtin.withExtra more).IsComplete :=
  fun _ h => List.mem_append_left _ h

namespace Sql

/-- The words that are never written bare as names. -/
def quotedWords : List String :=
  Reserved.builtin.words ++ Reserved.afterTable ++ Reserved.afterColumn ++
    Reserved.insideExpression

/-- A plain word is compared with keywords in ASCII capitals. -/
lemma capitalized_of_plain {word : String} (h : Reserved.isPlainWord word.toList = true) :
    Token.capitalized word = Name.upper word := by
  have hchars : ∀ c ∈ word.toList, Token.capitals c = [c.toUpper] := by
    have hplain : ∀ c ∈ word.toList, Reserved.continuesPlainWord c = true := by
      cases hcs : word.toList with
      | nil => simp
      | cons c cs =>
        simp only [hcs, Reserved.isPlainWord, Bool.and_eq_true, List.all_eq_true] at h
        simp only [List.forall_mem_cons]
        exact ⟨Tokenizer.continues_of_starts h.1, h.2⟩
    intro c hc
    exact Name.forall_ascii (P := fun c => Token.capitals c = [c.toUpper]) (by decide)
      (Tokenizer.continuesPlain_ascii (hplain c hc))
  rw [Token.capitalized, Name.upper]
  congr 1
  rw [List.map_eq_flatMap]
  exact List.flatMap_congr hchars

namespace Grammar

variable {reserved : Reserved} {t : Token} {part : String}

/-- **Bare names.** A part of a name is none of the words that are quoted as names. -/
lemma IsPart.not_quotedWord (h : IsPart reserved t part) (hreserved : reserved.IsComplete) :
    t.isOneOf quotedWords = false := by
  cases h with
  | quoted => rfl
  | bare hquote =>
    simp only [Reserved.needsQuoting, Reserved.byGrammar, Reserved.contains, Bool.or_eq_false_iff,
      Bool.not_eq_false', List.contains_eq_mem, decide_eq_false_iff_not] at hquote
    obtain ⟨⟨hplain, hword⟩, ⟨htable, hcolumn⟩, hinside⟩ := hquote
    have hbuiltin : Name.upper part ∉ Reserved.builtin.words := fun h => hword (hreserved _ h)
    simp [Token.isOneOf, Token.keyword?, capitalized_of_plain hplain, quotedWords, hbuiltin, htable,
      hcolumn, hinside]

lemma isKeyword_of_not_isOneOf {words : List String} {word : String}
    (h : t.isOneOf words = false) (hword : word ∈ words) : t.isKeyword word = false := by
  unfold Token.isOneOf at h
  unfold Token.isKeyword
  cases hk : t.keyword? with
  | none => simp
  | some k =>
    simp only [hk, Option.any_some, List.contains_eq_mem, decide_eq_false_iff_not] at h
    have hne : k ≠ word := fun heq => h (heq ▸ hword)
    simp [hne]

lemma IsPart.not_keyword (h : IsPart reserved t part) (hreserved : reserved.IsComplete)
    {word : String} (hword : word ∈ quotedWords) : t.isKeyword word = false :=
  isKeyword_of_not_isOneOf (h.not_quotedWord hreserved) hword

lemma IsPart.eq_word (h : IsPart reserved t part) : ∃ quote, t = .word part quote := by
  cases h <;> exact ⟨_, rfl⟩

end Grammar

end Sql

end SelectBinding
