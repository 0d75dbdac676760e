import SelectBinding.Proofs.Sql.Terms

/-!
Names of several bare words, and the calls of functions with such names.

Words with points between them are read back as they are written, whatever comes after them that
does not go on with a word. Before a parenthesis they are the name of a function.
-/

namespace SelectBinding.Sql

/-! ### Words with points between them -/

/-- The tokens of words with a point before each of them. -/
def pointedTokens (words : List String) : List Token :=
  words.flatMap fun word => [.sign ".", .word word none]

/-- The characters of words with a point before each of them. -/
def pointedChars (words : List String) : List Char :=
  words.flatMap fun word => '.' :: word.toList

lemma toList_dotted (word : String) (words : List String) :
    (Name.dotted (word :: words)).toList = word.toList ++ pointedChars words := by
  induction words generalizing word with
  | nil => simp [Name.dotted, pointedChars]
  | cons word' words ih =>
    rw [Name.dotted, String.intercalate_cons_cons, ← Name.dotted, String.toList_append,
      String.toList_append, ih, pointedChars, pointedChars, List.flatMap_cons]
    simp

/-- What makes a longer name of a name is more words with points before them. -/
lemma toList_of_dotted_append {word tail : String} {words more : List String}
    (h : Name.dotted (word :: words) ++ tail = Name.dotted (word :: (words ++ more))) :
    tail.toList = pointedChars more := by
  have hchars := congrArg String.toList h
  rw [String.toList_append, toList_dotted, toList_dotted, pointedChars, pointedChars,
    List.flatMap_append, ← List.append_assoc] at hchars
  exact List.append_cancel_left hchars

namespace Tokenizer

variable {word : String} {words : List String} {rest : List Char}

lemma scans_word (h : Reserved.isPlainWord word.toList = true) (hrest : StopsWord .ansi rest) :
    Scans .ansi (word.toList ++ rest) [.word word none] rest := by
  obtain ⟨c, cs, hcs⟩ : ∃ c cs, word.toList = c :: cs := by
    cases hcs : word.toList with
    | nil => simp [hcs, Reserved.isPlainWord] at h
    | cons c cs => exact ⟨c, cs, rfl⟩
  have hstep : step .ansi c (cs ++ rest) =
      .ok (some (.word (String.ofList (c :: cs)) none), rest) :=
    step_word (hcs ▸ h) hrest
  rw [← hcs, String.ofList_toList] at hstep
  rw [hcs]
  exact .token hstep (by simp) .done

/-- Words with points before them are read up to what does not go on with the last one. -/
lemma scans_pointed (h : ∀ word ∈ words, Reserved.isPlainWord word.toList = true)
    (hrest : StopsWord .ansi rest) :
    Scans .ansi (pointedChars words ++ rest) (pointedTokens words) rest ∧
      StopsWord .ansi (pointedChars words ++ rest) := by
  induction words with
  | nil => exact ⟨.done, hrest⟩
  | cons word words ih =>
    rw [List.forall_mem_cons] at h
    obtain ⟨hmore, hstops⟩ := ih h.2
    have hdigit : ∀ c ∈ (word.toList ++ (pointedChars words ++ rest)).head?, c.isDigit = false := by
      have hplain := h.1
      cases hcs : word.toList with
      | nil => simp [hcs, Reserved.isPlainWord] at hplain
      | cons c cs =>
        simp only [hcs, Reserved.isPlainWord, Bool.and_eq_true] at hplain
        obtain ⟨-, -, -, hdigit, -⟩ := plainStart .ansi hplain.1
        simpa using hdigit
    have hword := (scans_word h.1 hstops).trans hmore
    have hpoint := Scans.token (step_point hdigit) (Nat.le_refl _) hword
    refine ⟨by simpa [pointedChars, pointedTokens] using hpoint, EndsWord.stopsWord ?_⟩
    simp [pointedChars, EndsWord, wordEnds]

/-- **Dotted names.** Plain words with points between them are read up to what does not go on with
the last one. -/
lemma scans_dotted (h : ∀ w ∈ word :: words, Reserved.isPlainWord w.toList = true)
    (hrest : StopsWord .ansi rest) :
    Scans .ansi ((Name.dotted (word :: words)).toList ++ rest)
      (.word word none :: pointedTokens words) rest := by
  rw [List.forall_mem_cons] at h
  obtain ⟨hmore, hstops⟩ := scans_pointed h.2 hrest
  rw [toList_dotted, List.append_assoc]
  exact (scans_word h.1 hstops).trans hmore

end Tokenizer

namespace Grammar

open Sql.Parser Sql.Reading

/-- Tokens of words with points before them are such words. -/
lemma pointed_of_tokens {words : List String} {ls : List Located}
    (h : ls.map Located.token = pointedTokens words) :
    ∃ idents, Pointed idents ls ∧ idents.map Ident.value = words ∧
      ∀ ident ∈ idents, ident.quote = none := by
  induction words generalizing ls with
  | nil =>
    obtain rfl : ls = [] := by simpa [pointedTokens] using h
    exact ⟨[], .nil, rfl, by simp⟩
  | cons word words ih =>
    obtain ⟨dot, more, rfl, hdot, hmore⟩ := List.map_eq_cons_iff.mp h
    obtain ⟨l, ls, rfl, hl, hls⟩ := List.map_eq_cons_iff.mp hmore
    obtain ⟨idents, hpointed, hvalues, hbare⟩ := ih hls
    exact ⟨wordIdent word none l.place :: idents, .cons hdot hl hpointed,
      by simp [hvalues, wordIdent], by simpa [wordIdent] using hbare⟩

/-! ### Calls -/

/-- The words are read as the name of a function as far as they go: the first of them begins neither
a form of its own nor what may stand in front of the columns. -/
structure IsCallee (word : String) (words : List String) : Prop where
  plain : ∀ w ∈ word :: words, Reserved.isPlainWord w.toList = true
  formless : Token.isOneOf (callForms ++ ["DISTINCT", "TOP"]) (.word word none) = false

instance (word : String) (words : List String) : Decidable (IsCallee word words) :=
  decidable_of_iff (_ ∧ _) ⟨fun h => ⟨h.1, h.2⟩, fun h => ⟨h.plain, h.formless⟩⟩

lemma IsCallee.not_callForm {word : String} {words : List String} (h : IsCallee word words) :
    Token.isOneOf callForms (.word word none) = false :=
  isOneOf_of_subset h.formless fun _ hmem => List.mem_append_left _ hmem

/-- The call of a function by words that are not reserved, with arguments or without any. -/
inductive IsDottedCall (reserved : Reserved) (inner : Level) : List Token → Expr → Prop where
  | mk {word : String} {words : List String} {ts : List Token} {es : List Expr}
      (hname : IsCallee word words) (hfree : ∀ w ∈ word :: words, reserved.contains w = false)
      (hargs : ts = [] ∧ es = [] ∨ Listed (IsArgument reserved inner) ts es) :
      IsDottedCall reserved inner
        (.word word none :: (pointedTokens words ++ .sign "(" :: (ts ++ [.sign ")"])))
        (.call (callKind (Name.dotted (word :: words))) (Name.dotted (word :: words)) es)

/-- The level that derives nothing but such calls. -/
def dottedCalls (reserved : Reserved) (inner : Level) : Level :=
  fun bound next ts e => bound = 0 ∧ next = 0 ∧ IsDottedCall reserved inner ts e

section Calls

variable {r : Reading} {inner : Inner} {level : Level}

/-- A plain word that is not reserved is none of the words that always are. -/
lemma not_keyword_of_free {reserved : Reserved} (hreserved : reserved.IsComplete) {word : String}
    (hplain : Reserved.isPlainWord word.toList = true) (hfree : reserved.contains word = false)
    {keyword : String} (hkeyword : keyword ∈ Reserved.builtin.words) :
    Token.isKeyword keyword (.word word none) = false := by
  have hmem : Name.upper word ∉ reserved.words := by
    simpa [Reserved.contains] using hfree
  have hne : Token.capitalized word ≠ keyword := by
    rintro rfl
    exact hmem (capitalized_of_plain hplain ▸ hreserved _ hkeyword)
  simpa [Token.isKeyword, Token.keyword?] using hne

/-- Such a word may begin a term. -/
lemma IsCallee.not_first {reserved : Reserved} (hreserved : reserved.IsComplete) {word : String}
    {words : List String} (h : IsCallee word words) (hfree : reserved.contains word = false) :
    Token.isOneOf notFirst (.word word none) = false := by
  have hwords : ∀ keyword ∈ notFirst,
      keyword ∈ Reserved.builtin.words ∨ keyword ∈ nameForms ∨ keyword = "TOP" := by decide
  refine isOneOf_of_forall fun keyword hkeyword => ?_
  rcases hwords keyword hkeyword with hbuiltin | hform | rfl
  · exact not_keyword_of_free hreserved (h.plain word (by simp)) hfree hbuiltin
  · have hmem : keyword ∈ callForms := List.mem_append_left _ (List.mem_append_left _ hform)
    exact isKeyword_of_not_isOneOf h.not_callForm hmem
  · exact isKeyword_of_not_isOneOf h.formless (by simp)

/-- Names that are not reserved have their values. -/
lemma names_of_free {idents : List Ident}
    (h : ∀ ident ∈ idents, r.reserved.contains ident.value = false) :
    List.Forall₂ r.Names idents (idents.map Ident.value) := by
  rw [List.forall₂_map_right_iff, List.forall₂_same]
  intro ident hident
  simp [Names, nameValue, h ident hident]

lemma IsDottedCall.read (hreserved : r.reserved.IsComplete) (hin : ReadsInside r inner level)
    {ts : List Token} {e : Expr} (h : IsDottedCall r.reserved level ts e) {ls rest : List Located}
    (hls : ls.map Located.token = ts) (htidy : Tidy ls) (hrest : Before 0 rest) :
    ∃ t, termAbove inner 0 ansi (ls ++ rest) = .ok (t, rest) ∧ r.Lowers t e := by
  obtain @⟨word, words, _, es, hname, hfree, hargs⟩ := h
  obtain ⟨l, more, rfl, hl, hmore⟩ := List.map_eq_cons_iff.mp hls
  obtain ⟨parts, more, rfl, hparts, hmore⟩ := List.map_eq_append_iff.mp hmore
  obtain ⟨opening, more, rfl, hopen, hmore⟩ := List.map_eq_cons_iff.mp hmore
  obtain ⟨ls, closing, rfl, hinside, hclosing⟩ := List.map_eq_append_iff.mp hmore
  obtain ⟨close, rfl, hclose⟩ := List.map_eq_singleton_iff.mp hclosing
  obtain ⟨idents, hpointed, rfl, -⟩ := pointed_of_tokens hparts
  have htidy := htidy.append hrest.tidy
  have hspread : l :: (parts ++ opening :: (ls ++ [close])) ++ rest =
      l :: (parts ++ opening :: (ls ++ close :: rest)) := by simp
  rw [hspread] at htidy ⊢
  obtain ⟨args, hread, hlowers⟩ :=
    argumentList_read hreserved hin hargs hinside hclose htidy.tail.right.tail
  have hstart := operandStart_parts
    (operandWithin inner (l :: (parts ++ opening :: (ls ++ close :: rest))).length)
    hname.not_callForm hl hpointed hopen htidy.noBracket hread hrest
  have hnames : List.Forall₂ r.Names (wordIdent word none l.place :: idents)
      (word :: idents.map Ident.value) :=
    names_of_free (by simpa [wordIdent] using hfree)
  exact ⟨_, termAbove_operand (operand_of_start hstart hrest) hrest,
    lowers_call hnames (lowersArguments_of_forall hlowers)⟩

/-- Nothing but such calls is read where they are derived. -/
lemma readsInside_dottedCalls (hreserved : r.reserved.IsComplete) (depth : Nat) :
    ReadsInside r (Grammar.level (depth + 1))
      (dottedCalls r.reserved (derives r.reserved depth)) := by
  have hin := readsInside_level hreserved depth
  refine ⟨?_, ?_, ?_⟩
  · rintro _ _ _ _ ⟨rfl, rfl, h⟩ ls rest hls htidy hrest
    exact h.read hreserved hin hls htidy hrest
  · rintro _ _ _ _ ⟨-, -, h⟩
    obtain ⟨hname, hfree, -⟩ := h
    exact ⟨_, _, rfl, hname.not_first hreserved (hfree _ (by simp)), by simp [notFirstSigns]⟩
  · rintro _ _ _ _ ⟨-, -, h⟩ ls rest hls -
    obtain ⟨hname, hfree, -⟩ := h
    obtain ⟨l, more, rfl, hl, hmore⟩ := List.map_eq_cons_iff.mp hls
    obtain ⟨parts, more, rfl, hparts, hmore⟩ := List.map_eq_append_iff.mp hmore
    obtain ⟨opening, more, rfl, hopen, -⟩ := List.map_eq_cons_iff.mp hmore
    obtain ⟨idents, hpointed, -⟩ := pointed_of_tokens hparts
    rw [List.cons_append, List.append_assoc]
    exact ⟨_, asterisk_pointed hl hpointed (by simp [hopen])⟩

end Calls

end Grammar

end SelectBinding.Sql
