import Mathlib.Data.List.DropRight
import Mathlib.Data.List.Infix
import Mathlib.Tactic.Lemma
import SelectBinding.Sql.Tokenizer

/-!
A scanner leaves the end of what it was given, and a token takes at least one character.

So the characters before what is left are those that were read, and the place after them is where
the next token stands.
-/

namespace SelectBinding.Sql.Tokenizer

/-- What is left after what was found, if anything was, is an end of the characters. -/
def Ends {α : Type} (cs : List Char) (found : Option (α × List Char)) : Prop :=
  ∀ x ∈ found, x.2 <:+ cs

namespace Ends

variable {α β : Type} {cs cs' rest : List Char} {found : Option (α × List Char)}

protected lemma none : Ends cs (none : Option (α × List Char)) := by
  rintro _ ⟨⟩

protected lemma some {a : α} (h : rest <:+ cs) : Ends cs (some (a, rest)) := by
  rintro _ ⟨⟩
  exact h

protected lemma map {f : α × List Char → β} (h : Ends cs found) :
    Ends cs (found.map fun x => (f x, x.2)) := by
  intro y hy
  obtain ⟨x, hx, rfl⟩ := Option.map_eq_some_iff.mp hy
  exact h x hx

/-- What is left does not depend on what is found. -/
protected lemma of_map {o : Option β} {f : β → α} (h : rest <:+ cs) :
    Ends cs (o.map fun b => (f b, rest)) := by
  cases o with
  | none => exact .none
  | some b => exact .some h

protected lemma mono (h : Ends cs found) (hsuffix : cs <:+ cs') : Ends cs' found :=
  fun x hx => (h x hx).trans hsuffix

protected lemma cons {c : Char} (h : Ends cs found) : Ends (c :: cs) found :=
  h.mono (List.suffix_cons c cs)

end Ends

variable {cs rest : List Char}

lemma upToQuote_ends {quote : Char} {backslash : Bool} :
    Ends cs (upToQuote quote backslash cs) := by
  fun_induction upToQuote quote backslash cs with
  | case1 => exact .none
  | case2 _ ih => exact ih.map.cons.cons
  | case3 => exact .some (List.suffix_cons ..)
  | case4 => exact .some (by simp)
  | case5 _ _ _ _ _ ih => exact ih.map.cons.cons
  | case6 => exact .none
  | case7 _ _ _ _ ih => exact ih.map.cons

lemma upToTripleQuote_ends {quote : Char} : Ends cs (upToTripleQuote quote cs) := by
  fun_induction upToTripleQuote quote cs with
  | case1 => exact .none
  | case2 c rest => exact .some ((List.drop_suffix 2 rest).trans (List.suffix_cons ..))
  | case3 _ _ _ ih => exact ih.map.cons

lemma digitsWithin_suffix {value? : Char → Option Nat} {limit : Nat} :
    (digitsWithin value? limit cs).2 <:+ cs := by
  fun_induction digitsWithin value? limit cs <;> grind [List.suffix_cons, List.IsSuffix.trans]

lemma upToTag_ends {tag : List Char} {wanted : Option (List Char)} :
    Ends cs (upToTag tag wanted cs) := by
  induction cs generalizing wanted with
  | nil => exact .none
  | cons c rest ih =>
    unfold upToTag
    extract_lets within
    have hwithin (wanted : Option (List Char)) : Ends (c :: rest) (within wanted) := ih.map.cons
    split
    · exact hwithin _
    · split
      · exact .some (List.suffix_cons ..)
      · exact hwithin _
    · exact hwithin _

lemma upToDollarTag_ends {tag : List Char} : Ends cs (upToDollarTag tag cs) :=
  .map upToTag_ends

lemma upToDollars_ends {afterDollar : Bool} : Ends cs (upToDollars afterDollar cs) := by
  fun_induction upToDollars afterDollar cs with
  | case1 => exact .none
  | case2 => exact .some (List.suffix_cons ..)
  | case3 _ _ _ ih => exact ih.cons
  | case4 _ _ _ _ ih => exact ih.map.cons

lemma afterLine_suffix : afterLine cs <:+ cs := by
  fun_induction afterLine cs with
  | case1 => exact List.suffix_refl _
  | case2 => exact List.suffix_cons ..
  | case3 _ _ _ ih => exact ih.trans (List.suffix_cons ..)

lemma afterComment_suffix {depth : Nat} {last : Char} (h : rest ∈ afterComment depth last cs) :
    rest <:+ cs := by
  induction cs generalizing depth last with
  | nil => cases h
  | cons c cs ih =>
    unfold afterComment at h
    split at h
    · exact (ih h).trans (List.suffix_cons ..)
    · split at h
      · split at h
        · cases h
          exact List.suffix_cons ..
        · cases h
          exact List.suffix_cons ..
        · exact (ih h).trans (List.suffix_cons ..)
      · exact (ih h).trans (List.suffix_cons ..)

/-! ### Strings with code points -/

lemma escapedChar?_ends : Ends cs (escapedChar? cs) := by
  have hdigits {value? : Char → Option Nat} {limit : Nat} {cs rest : List Char}
      {digits : List Nat} (h : digitsWithin value? limit cs = (digits, rest)) : rest <:+ cs := by
    have hsuffix : (digitsWithin value? limit cs).2 <:+ cs := digitsWithin_suffix
    rwa [h] at hsuffix
  have hoctal (c : Char) (rest : List Char) :
      (digitsWithin octalValue? 3 (c :: rest)).2 <:+ c :: rest := digitsWithin_suffix
  unfold escapedChar?
  split
  iterate 5
    · exact .some (List.suffix_cons ..)
  iterate 2
    · split
      · exact .none
      · exact (Ends.of_map (List.drop_suffix ..)).cons
  · split
    · next h => exact (Ends.some (hdigits h)).cons
    · next h => exact (Ends.of_map (hdigits h)).cons
  · split
    · exact .of_map (hoctal _ _)
    · exact .some (List.suffix_cons ..)
  · exact .none

lemma escapedFrom_ends {steps : Nat} : Ends cs (escapedFrom steps cs) := by
  fun_induction escapedFrom steps cs with
  | case1 => exact .none
  | case2 => exact .none
  | case3 _ _ ih => exact ih.map.cons.cons
  | case4 => exact .some (List.suffix_cons ..)
  | case5 => exact .none
  | case6 => exact .none
  | case7 _ _ _ _ h _ ih => exact (ih.map.mono (escapedChar?_ends _ h)).cons
  | case8 _ _ _ _ _ ih => exact ih.map.cons

/-! ### Tokens -/

/-- What is left after what a scanner found, if it found something, is an end of the characters. -/
def ScanEnds {α : Type} (cs : List Char) (scan : Scan α) : Prop :=
  Ends cs scan.toOption

namespace ScanEnds

variable {α β : Type} {scan : Scan α}

protected lemma found {a : α} (h : rest <:+ cs) : ScanEnds cs (found a rest) :=
  Ends.some h

protected lemma error {fault : Fault} : ScanEnds cs (.error fault : Scan α) :=
  Ends.none

protected lemma map {f : α × List Char → β} (h : ScanEnds cs scan) :
    ScanEnds cs (scan.map fun x => (f x, x.2)) := by
  cases scan with
  | error fault => exact .error
  | ok x => exact Ends.map h

protected lemma mono {cs' : List Char} (h : ScanEnds cs scan) (hsuffix : cs <:+ cs') :
    ScanEnds cs' scan :=
  Ends.mono h hsuffix

protected lemma cons {c : Char} (h : ScanEnds cs scan) : ScanEnds (c :: cs) scan :=
  Ends.cons h

end ScanEnds

lemma drop_suffix_tail (n : Nat) : cs.drop (n + 1) <:+ cs.tail := by
  rw [← List.drop_one, Nat.add_comm, ← List.drop_drop]
  exact List.drop_suffix ..

lemma string_ends {kind : StringKind} {quote : Char} {backslash : Bool} :
    ScanEnds cs.tail (string kind quote backslash cs) := by
  unfold string
  split
  · next h => exact .found (upToQuote_ends _ h)
  · exact .error

lemma rawString_ends {single triple : StringKind} {quote : Char} :
    ScanEnds cs (rawString single triple quote cs) := by
  unfold rawString
  extract_lets opening inside
  have hinside : inside <:+ cs := List.drop_suffix ..
  split
  next kind value hvalue =>
    have hends : Ends inside value := by
      split at hvalue <;> cases hvalue
      · exact upToQuote_ends
      · exact .some (List.suffix_refl _)
      · exact upToTripleQuote_ends
    split
    · next h => exact .found ((hends _ rfl).trans hinside)
    · exact .error

lemma quotedWord_ends {opening closing : Char} :
    ScanEnds cs.tail (quotedWord opening closing cs) := by
  unfold quotedWord
  split
  · next h => exact .found (upToQuote_ends _ h)
  · exact .error

lemma escapedString_ends : ScanEnds cs.tail (escapedString cs) := by
  unfold escapedString
  split
  · next h => exact .found ((escapedFrom_ends _ h).trans (drop_suffix_tail 1))
  · exact .error

lemma unicodeChar_ends {code left : Nat} : ScanEnds cs (unicodeChar code left cs) := by
  fun_induction unicodeChar code left cs with
  | case1 => exact .found (List.suffix_refl _)
  | case2 => exact .error
  | case3 => exact .error
  | case4 _ _ _ _ _ _ ih => exact ih.cons
  | case5 => exact .error

lemma unicodeFrom_ends {steps : Nat} : ScanEnds cs (unicodeFrom steps cs) := by
  fun_induction unicodeFrom steps cs with
  | case1 => exact .error
  | case2 => exact .error
  | case3 _ _ ih => exact ih.map.cons.cons
  | case4 => exact .found (List.suffix_cons ..)
  | case5 => exact .error
  | case6 steps rest char c left h ih =>
    have hchar : ScanEnds rest char := by
      dsimp only [char]
      split
      · exact .found (List.suffix_cons ..)
      · exact .cons unicodeChar_ends
      · exact unicodeChar_ends
    rw [h] at hchar
    exact (ih.map.mono (hchar _ rfl)).cons
  | case7 _ _ _ _ _ ih => exact ih.map.cons

lemma unicodeString_ends : ScanEnds cs.tail (unicodeString cs) :=
  .map (.mono unicodeFrom_ends (drop_suffix_tail 2))

lemma bareWord_ends {dialect : Dialect} (length : Nat) :
    ScanEnds cs.tail (bareWord dialect (length + 1) cs) :=
  .found ((List.dropWhile_suffix _).trans (drop_suffix_tail length))

lemma exponent?_ends : Ends cs (exponent? cs) := by
  cases cs with
  | nil => exact .none
  | cons c rest =>
    simp only [exponent?]
    split
    · split
      · exact (Ends.some (List.dropWhile_suffix _)).cons.cons
      · exact (Ends.some (List.dropWhile_suffix _)).cons.cons
      · exact (Ends.some (List.dropWhile_suffix _)).cons
    · exact .none

lemma finishNumber_ends {spelling : List Char} : ScanEnds cs (finishNumber spelling cs) := by
  unfold finishNumber
  split
  · exact .found (List.suffix_cons ..)
  · exact .found (List.suffix_refl _)

lemma afterDigits_ends {dialect : Dialect} {spelling : List Char} :
    ScanEnds cs (afterDigits dialect spelling cs) := by
  unfold afterDigits
  split
  · exact finishNumber_ends
  · next h => exact .mono finishNumber_ends (exponent?_ends _ h)
  · extract_lets word
    split
    · exact finishNumber_ends
    · exact .found (List.dropWhile_suffix _)

lemma number_ends {dialect : Dialect} {c : Char} (hc : (c.isDigit || c == '.') = true) :
    ScanEnds cs (number dialect (c :: cs)) := by
  -- A digit is dropped with the digits after it, and a point is dropped after no digits.
  have hdigits (hdigit : c.isDigit = true) : (c :: cs).dropWhile Char.isDigit <:+ cs := by
    rw [List.dropWhile_cons_of_pos hdigit]
    exact List.dropWhile_suffix _
  have hpoint {d : Char} {rest : List Char}
      (h : (c :: cs).dropWhile Char.isDigit = d :: rest) : rest <:+ cs := by
    by_cases hdigit : c.isDigit = true
    · have hdigits := hdigits hdigit
      rw [h] at hdigits
      exact (List.suffix_cons ..).trans hdigits
    · rw [List.dropWhile_cons_of_neg hdigit] at h
      rw [(List.cons.inj h).2]
  unfold number
  extract_lets whole
  split
  · next h => exact .found ((List.dropWhile_suffix _).trans (hpoint h))
  · next h =>
    have hrest := hpoint h
    extract_lets fraction
    split
    · exact .found hrest
    · exact .mono afterDigits_ends ((List.dropWhile_suffix _).trans hrest)
  · next hnone _ =>
    by_cases hdigit : c.isDigit = true
    · exact .mono afterDigits_ends (hdigits hdigit)
    · have hdot : c = '.' := by simpa [hdigit] using hc
      rw [List.dropWhile_cons_of_neg hdigit, hdot] at hnone
      exact (hnone cs rfl).elim

lemma dollar_ends : ScanEnds cs (dollar cs) := by
  unfold dollar
  split
  · split
    · next h => exact (ScanEnds.found (upToDollars_ends _ h)).cons
    · exact .error
  · extract_lets inTag tag
    have hrest : cs.dropWhile inTag <:+ cs := List.dropWhile_suffix _
    split
    · next h =>
      rw [h] at hrest
      split
      · next h => exact .found ((upToDollarTag_ends _ h).trans ((List.suffix_cons ..).trans hrest))
      · exact .error
    · exact .found hrest

lemma operators_nonempty : ∀ entry ∈ operators, entry.1.toList.length ≠ 0 := by
  decide

lemma operator?_ends {dialect : Dialect} : Ends cs.tail (operator? dialect cs) := by
  unfold operator?
  split
  · exact .none
  · next hfound =>
    extract_lets rest more
    have hrest : rest <:+ cs.tail := by
      obtain ⟨n, hn⟩ := Nat.exists_eq_succ_of_ne_zero
        (operators_nonempty _ (List.mem_of_find?_eq_some hfound))
      simp only [rest, hn]
      exact drop_suffix_tail n
    split
    · exact .some hrest
    · exact .some ((List.drop_suffix ..).trans hrest)

lemma question_ends {dialect : Dialect} : ScanEnds cs (question dialect cs) := by
  unfold question
  split
  · split
    · exact .found (List.suffix_cons ..)
    · exact .found (List.suffix_cons ..)
    · exact .found (List.drop_suffix ..)
  · exact .found (List.dropWhile_suffix _)

lemma markedWord?_pos {dialect : Dialect} {length : Nat}
    (h : markedWord? dialect cs = some length) : ∃ n, length = n + 1 := by
  unfold markedWord? at h
  split at h
  iterate 3
    · split at h <;> cases h
      exact ⟨_, rfl⟩
  · cases h

lemma lettered_ends {dialect : Dialect} {scan : Scan Token} (h : lettered dialect cs = some scan) :
    ScanEnds cs.tail scan := by
  have hstring {cs : List Char} {kind : StringKind} {quote : Char} {backslash : Bool} :
      ScanEnds cs (string kind quote backslash cs) :=
    string_ends.mono (List.tail_suffix cs)
  unfold lettered at h
  split at h
  · extract_lets quoted at h
    split at h
    · split at h <;> cases h
      exact hstring
    · split at h <;> cases h
      exact rawString_ends
    · cases h
      exact hstring
    · cases h
      exact escapedString_ends
    · cases h
      exact hstring
    · cases h
  · split at h
    · split at h <;> cases h
      exact hstring
    · split at h <;> cases h
      exact rawString_ends
    · cases h
  · split at h <;> cases h
    exact unicodeString_ends
  · cases h

/-- **Tokens.** What is left after a token is an end of the characters after its first one. -/
lemma token_ends {dialect : Dialect} {c : Char} : ScanEnds cs (token dialect c cs) := by
  unfold token
  extract_lets whole
  split
  · next h => exact lettered_ends h
  split
  · exact string_ends
  split
  · exact quotedWord_ends
  split
  · exact string_ends
  split
  · next h => exact number_ends h
  split
  · exact question_ends
  split
  · exact .found (List.tail_suffix cs)
  split
  · next h =>
    obtain ⟨n, rfl⟩ := markedWord?_pos h
    exact bareWord_ends n
  split
  · next h =>
    rintro _ ⟨⟩
    exact operator?_ends _ h
  split
  · exact bareWord_ends 0
  split
  · exact dollar_ends
  · exact .found (List.suffix_refl _)

/-- **Steps.** What is left after a token, a blank or a comment is an end of the characters after
its first one. -/
lemma step_ends {dialect : Dialect} {c : Char} : ScanEnds cs (step dialect c cs) := by
  unfold step
  split
  · split
    · exact .found (List.suffix_cons ..)
    · exact .found (List.suffix_refl _)
  split
  · exact .found afterLine_suffix
  split
  · split
    · next h => exact .found ((afterComment_suffix h).trans (List.suffix_cons ..))
    · exact .error
  · exact .map token_ends

end SelectBinding.Sql.Tokenizer
