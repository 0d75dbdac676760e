import SelectBinding.Proofs.Sql.Pieces

/-!
Names as they are written, read back by the tokenizers of the dialects.

A name is written in the same way whatever the dialect: bare when it is a plain word that nothing
reserves, and otherwise in double quotes. All dialects read a plain word as that word. Double
quotes make a name in all of them but one, which takes them for the quotes of a text.
-/

namespace SelectBinding.Sql.Tokenizer

/-- The text is exactly one token, and this token is the name. -/
def ReadsAs (dialect : Dialect) (text name : String) : Prop :=
  ∃ located mark, tokenize dialect text = .ok located ∧
    located.map Located.token = [.word name mark]

variable {dialect : Dialect} {text name : String}

lemma Spells.readsAs {mark : Option Char}
    (h : Spells dialect EndsWord text.toList [.word name mark]) : ReadsAs dialect text name := by
  obtain ⟨located, hlocated, htokens⟩ := (h.lexes (by simp [EndsWord])).tokenize
  exact ⟨located, mark, hlocated, htokens⟩

lemma closingQuote?_double (h : dialect ≠ .mysql) : dialect.closingQuote? '"' = some '"' := by
  cases dialect <;> first | rfl | contradiction

/-- A plain word is read as itself in every dialect. -/
lemma readsAs_bare (h : Reserved.isPlainWord name.toList = true) : ReadsAs dialect name name := by
  have hspells : Spells dialect EndsWord name.toList [.word (String.ofList name.toList) none] :=
    spells_word h
  rw [String.ofList_toList] at hspells
  exact hspells.readsAs

/-- Where double quotes make a name, any text in them is read as that name. -/
lemma readsAs_inQuotes (h : dialect ≠ .mysql) (name : String) :
    ReadsAs dialect (Reserved.inQuotes name) name :=
  (spells_inQuotes (closingQuote?_double h) name).readsAs

/-- Where names are put between backticks, a text in double quotes is never a name. -/
lemma not_readsAs_inQuotes (name name' : String) :
    ¬ ReadsAs .mysql (Reserved.inQuotes name) name' := by
  rintro ⟨located, mark, hlocated, htokens⟩
  rw [tokenize, toList_inQuotes, List.length_cons] at hlocated
  have hkind : ('"', StringKind.inDouble) ∈ textQuotes := by decide
  obtain ⟨value, rest, more, -, hvalue⟩ := tokens_text hkind hlocated
  simp [hvalue] at htokens

/-- **Written names.** A name as it is written is read as that one name by every dialect in which
double quotes make names; by the other one exactly when the name is written bare. -/
theorem readsAs_quote_iff (dialect : Dialect) (reserved : Reserved) (name : String) :
    ReadsAs dialect (reserved.quote name) name ↔
      dialect ≠ .mysql ∨ reserved.needsQuoting name = false := by
  unfold Reserved.quote
  split
  · rename_i hquoted
    constructor
    · intro h
      left
      rintro rfl
      exact not_readsAs_inQuotes name name h
    · rintro (hdialect | hbare)
      · exact readsAs_inQuotes hdialect name
      · exact absurd hquoted (by simp [hbare])
  · rename_i hbare
    have hplain : Reserved.isPlainWord name.toList = true := by
      simp only [Reserved.needsQuoting, Bool.or_eq_true, not_or, Bool.not_eq_true,
        Bool.not_eq_false'] at hbare
      exact hbare.1.1
    exact ⟨fun _ => .inr (by simpa using hbare), fun _ => readsAs_bare hplain⟩

/-- A name with a blank in it is written in quotes that make a text of it. -/
theorem spaced_name_is_text :
    ¬ ReadsAs .mysql (Reserved.builtin.quote "my col") "my col" := by
  have hquote : Reserved.builtin.quote "my col" = Reserved.inQuotes "my col" := by
    rw [Reserved.quote, if_pos (by decide)]
  rw [hquote]
  exact not_readsAs_inQuotes "my col" "my col"

end SelectBinding.Sql.Tokenizer
