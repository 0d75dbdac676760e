import SelectBinding.Proofs.Sql.Following
import SelectBinding.Proofs.Text.Tokens

/-!
The text of an expression is made of its tokens.
-/

namespace SelectBinding

open Sql Sql.Grammar Sql.Tokenizer

/-! ### Pieces -/

/-- The token is none of those that would turn what is written into something else. -/
def Tame (t : Token) : Prop :=
  t ∉ untidySigns ∧ t.isKeyword "ON" = false

instance (t : Token) : Decidable (Tame t) :=
  inferInstanceAs (Decidable (_ ∧ _))

/-- The characters print the tokens in front of anything at which a term ends. They do not begin as
another token would go on. -/
structure Prints (cs : List Char) (ts : List Token) : Prop where
  spells : Spells .ansi EndsTerm cs ts
  tame : ∀ t ∈ ts, Tame t
  begins : ∃ c cs', cs = c :: cs' ∧ c ≠ '>' ∧ (c = '-' → ts.head? = some (.sign "-"))

section Pieces

variable {cs cs' : List Char} {ts ts' : List Token}

lemma endsTerm_cons {c : Char} (hc : c ∈ [' ', ',', ')']) (rest : List Char) :
    EndsTerm (c :: rest) := by
  intro d hd
  obtain rfl := Option.some.inj hd
  exact hc

/-- A blank comes between the two. -/
lemma Prints.blank (h : Prints cs ts) (h' : Prints cs' ts') :
    Prints (cs ++ ' ' :: cs') (ts ++ ts') := by
  obtain ⟨c, cs'', rfl, hc, hminus⟩ := h.begins
  refine ⟨?_, by simpa [or_imp, forall_and] using ⟨h.tame, h'.tame⟩, c, cs'' ++ ' ' :: cs', rfl, hc, ?_⟩
  · have hblank : Spells .ansi anything [' '] [] := Spells.blank
    simpa using h.spells.append (hblank.append h'.spells fun _ _ => trivial)
      fun rest _ => endsTerm_cons (by simp) _
  · intro heq
    simp [List.head?_append, hminus heq]

/-- A comma and a blank come between the two. -/
lemma Prints.comma (h : Prints cs ts) (h' : Prints cs' ts') :
    Prints (cs ++ ',' :: ' ' :: cs') (ts ++ .sign "," :: ts') := by
  obtain ⟨c, cs'', rfl, hc, hminus⟩ := h.begins
  refine ⟨?_, ?_, c, cs'' ++ ',' :: ' ' :: cs', rfl, hc, ?_⟩
  · have hblank : Spells .ansi anything [' '] [] := Spells.blank
    have hcomma := (spells_mark (by decide : (',', ",") ∈ marks)).append
      (hblank.append h'.spells fun _ _ => trivial) fun _ _ => trivial
    simpa using h.spells.append hcomma fun rest _ => endsTerm_cons (by simp) _
  · have hsign : Tame (.sign ",") := by decide
    simpa [or_imp, forall_and] using ⟨h.tame, hsign, h'.tame⟩
  · intro heq
    simp [List.head?_append, hminus heq]

/-- The whole stands in parentheses. -/
lemma Prints.enclosed (h : Prints cs ts) :
    Prints ('(' :: (cs ++ [')'])) (.sign "(" :: (ts ++ [.sign ")"])) := by
  have hopen := spells_mark (by decide : ('(', "(") ∈ marks)
  have hclose := spells_mark (by decide : (')', ")") ∈ marks)
  have hsigns : Tame (.sign "(") ∧ Tame (.sign ")") := by decide
  refine ⟨?_, by simpa [or_imp, forall_and, hsigns] using h.tame, '(', cs ++ [')'], rfl, by decide,
    fun heq => absurd heq (by decide)⟩
  have hinside : Spells .ansi anything (cs ++ [')']) (ts ++ [.sign ")"]) :=
    h.spells.append hclose fun rest _ => endsTerm_cons (by simp) rest
  exact (hopen.append hinside fun _ _ => trivial).mono fun _ _ => trivial

/-- A sign comes before it that is a token of its own whatever follows. -/
lemma Prints.mark {c : Char} {sign : String} (hmark : (c, sign) ∈ marks) (hc : c ∉ ['>', '-'])
    (htame : Tame (.sign sign)) (h : Prints cs ts) : Prints (c :: cs) (.sign sign :: ts) := by
  simp only [List.mem_cons, List.not_mem_nil, or_false, not_or] at hc
  refine ⟨?_, by simpa [htame] using h.tame, c, cs, rfl, hc.1, fun heq => absurd heq hc.2⟩
  exact (spells_mark hmark).append h.spells fun _ _ => trivial

/-- A minus comes before it. -/
lemma Prints.minus (h : Prints cs ts) (hts : ts.head? ≠ some (.sign "-")) :
    Prints ('-' :: cs) (.sign "-" :: ts) := by
  obtain ⟨c, cs, rfl, hc, hminus⟩ := h.begins
  have htame : Tame (.sign "-") := by decide
  refine ⟨?_, by simpa [htame] using h.tame, '-', c :: cs, rfl, by decide, fun _ => rfl⟩
  refine spells_minus.append h.spells fun rest _ d hd => ?_
  obtain rfl := Option.some.inj hd
  exact ⟨fun heq => hts (hminus heq), hc⟩

/-- A plain word is not one of the signs, and does not begin as one. -/
lemma prints_word {word : String} (hplain : Reserved.isPlainWord word.toList = true)
    (hon : Token.isKeyword "ON" (.word word none) = false) :
    Prints word.toList [.word word none] := by
  refine ⟨(spells_keyword word hplain).mono fun _ h => h.endsWord,
    by simpa [Tame, untidySigns] using hon, ?_⟩
  cases hcs : word.toList with
  | nil => simp [hcs, Reserved.isPlainWord] at hplain
  | cons c cs =>
    simp only [hcs, Reserved.isPlainWord, Bool.and_eq_true] at hplain
    obtain ⟨-, hsign, -⟩ := plainStart .ansi hplain.1
    simp only [signChars, List.mem_cons, not_or] at hsign
    exact ⟨c, cs, rfl, by tauto, fun heq => absurd heq (by tauto)⟩

end Pieces

/-! ### Names -/

section Names

variable {reserved : Reserved}

lemma Reserved.isPart_token (reserved : Reserved) (name : String) :
    IsPart reserved (reserved.token name) name := by
  by_cases h : reserved.needsQuoting name = true
  · rw [token, if_pos h]
    exact .quoted name
  · rw [token, if_neg h]
    exact .bare (by simpa using h)

lemma isPlainWord_of_bare {name : String} (h : reserved.needsQuoting name = false) :
    Reserved.isPlainWord name.toList = true := by
  simp only [Reserved.needsQuoting, Bool.or_eq_false_iff, Bool.not_eq_false'] at h
  exact h.1.1

/-- A name is one token, which the characters do not begin in another way. -/
lemma name_spells (reserved : Reserved) (name : String) :
    Spells .ansi EndsWord (reserved.quote name).toList [reserved.token name] ∧
      ∃ c cs, (reserved.quote name).toList = c :: cs ∧ c ∉ ['>', '-'] ∧ c.isDigit = false := by
  unfold Reserved.quote Reserved.token
  split
  · exact ⟨spells_inQuotes rfl name, '"', _, by simp [Reserved.inQuotes]; rfl, by decide, by decide⟩
  · rename_i hbare
    have hplain := isPlainWord_of_bare (by simpa using hbare)
    refine ⟨spells_keyword name hplain, ?_⟩
    cases hcs : name.toList with
    | nil => simp [hcs, Reserved.isPlainWord] at hplain
    | cons c cs =>
      simp only [hcs, Reserved.isPlainWord, Bool.and_eq_true] at hplain
      obtain ⟨-, hsign, -, hdigit, -⟩ := plainStart .ansi hplain.1
      simp only [signChars, List.mem_cons, not_or] at hsign
      exact ⟨c, cs, rfl, by simp; tauto, hdigit⟩

/-- A part of a name is one token, which the characters do not begin in another way. -/
lemma part_spells (reserved : Reserved) (part : String) :
    Spells .ansi EndsWord (if part == "*" then part else reserved.quote part).toList
        [reserved.partToken part] ∧
      ∃ c cs, (if part == "*" then part else reserved.quote part).toList = c :: cs ∧
        c ∉ ['>', '-'] ∧ c.isDigit = false := by
  unfold Reserved.partToken
  split
  · rename_i hpart
    obtain rfl : part = "*" := by simpa using hpart
    exact ⟨(spells_mark (by decide : ('*', "*") ∈ marks)).mono fun _ _ => trivial,
      '*', [], rfl, by decide, by decide⟩
  · exact name_spells reserved part

lemma token_tame (hreserved : reserved.IsComplete) (name : String) :
    Tame (reserved.token name) := by
  have hpart := reserved.isPart_token name
  refine ⟨?_, hpart.not_keyword hreserved (by decide)⟩
  obtain ⟨quote, hword⟩ := hpart.eq_word
  simp [hword, untidySigns]

lemma partToken_tame (hreserved : reserved.IsComplete) (part : String) :
    Tame (reserved.partToken part) := by
  unfold Reserved.partToken
  split
  · decide
  · exact token_tame hreserved part

/-- **Names.** Parts with points between them are spelled by their tokens. -/
lemma dotted_spells (reserved : Reserved) {parts : List String} (hne : parts ≠ []) :
    Spells .ansi EndsWord
        (Name.dotted (parts.map fun part =>
          if part == "*" then part else reserved.quote part)).toList
        (reserved.dottedTokens parts) ∧
      ∃ c cs, (Name.dotted (parts.map fun part =>
          if part == "*" then part else reserved.quote part)).toList = c :: cs ∧
        c ∉ ['>', '-'] ∧ c.isDigit = false := by
  induction parts with
  | nil => exact absurd rfl hne
  | cons part rest ih =>
    have hpart := part_spells reserved part
    rcases rest with _ | ⟨part', rest⟩
    · simpa [Name.dotted, Reserved.dottedTokens] using hpart
    · obtain ⟨hrest, c, cs, hcs, -, hdigit⟩ := ih (by simp)
      obtain ⟨hfirst, c', cs', hcs', hbegins⟩ := hpart
      simp only [Name.dotted, List.map_cons] at hrest hcs
      simp only [Name.dotted, List.map_cons, String.intercalate_cons_cons, String.toList_append]
      refine ⟨?_, c', _, by rw [hcs']; rfl, hbegins⟩
      simpa [Reserved.dottedTokens] using hfirst.pointed hrest hcs hdigit

lemma dottedTokens_tame (hreserved : reserved.IsComplete) (parts : List String) :
    ∀ t ∈ reserved.dottedTokens parts, Tame t := by
  induction parts with
  | nil => simp [Reserved.dottedTokens]
  | cons part rest ih =>
    have hpart := partToken_tame hreserved part
    have hpoint : Tame (.sign ".") := by decide
    cases rest with
    | nil => simpa [Reserved.dottedTokens] using hpart
    | cons part' rest => simpa [Reserved.dottedTokens, hpart, hpoint] using ih

lemma prints_name (hreserved : reserved.IsComplete) (name : String) :
    Prints (reserved.quote name).toList [reserved.token name] := by
  obtain ⟨hspells, c, cs, hcs, hc, -⟩ := name_spells reserved name
  simp only [List.mem_cons, List.not_mem_nil, or_false, not_or] at hc
  exact ⟨hspells.mono fun _ h => h.endsWord, by simpa using token_tame hreserved name, c, cs, hcs,
    hc.1, fun heq => absurd heq hc.2⟩

/-- A point stands between a name and what follows it. -/
lemma prints_pointed (hreserved : reserved.IsComplete) (name : String) {cs : List Char}
    {ts : List Token} (h : Spells .ansi EndsWord cs ts) (htame : ∀ t ∈ ts, Tame t) {c : Char}
    {cs' : List Char} (hcs : cs = c :: cs') (hdigit : c.isDigit = false) :
    Prints ((reserved.quote name).toList ++ '.' :: cs)
      (reserved.token name :: .sign "." :: ts) := by
  obtain ⟨hspells, c', cs'', hname, hc, -⟩ := name_spells reserved name
  have hpoint : Tame (.sign ".") := by decide
  simp only [List.mem_cons, List.not_mem_nil, or_false, not_or] at hc
  refine ⟨(hspells.pointed h hcs hdigit).mono fun _ h => h.endsWord, ?_, c', _, by rw [hname]; rfl,
    hc.1, fun heq => absurd heq hc.2⟩
  simpa [hpoint, token_tame hreserved name] using htame

lemma prints_variable (hreserved : reserved.IsComplete) {v : Variable} (hne : v.parts ≠ []) :
    Prints (v.render reserved).toList (reserved.dottedTokens v.parts) := by
  obtain ⟨hspells, c, cs, hcs, hc, -⟩ := dotted_spells reserved hne
  simp only [List.mem_cons, List.not_mem_nil, or_false, not_or] at hc
  exact ⟨hspells.mono fun _ h => h.endsWord, dottedTokens_tame hreserved _, c, cs, hcs, hc.1,
    fun heq => absurd heq hc.2⟩

end Names

/-! ### Literals -/

lemma isNumeral_of_digits {cs : List Char} (hne : cs ≠ []) (h : cs.all Char.isDigit = true) :
    isNumeral cs = true := by
  obtain ⟨htake, hdrop⟩ := takeWhile_append_of_stop h
    (by simp : ∀ c ∈ ([] : List Char).head?, c.isDigit = false)
  rw [List.append_nil] at htake hdrop
  simp [isNumeral, htake, hdrop, hne, Decimal.exponentPart?]

lemma isNumeral_natural (n : Nat) : isNumeral (toString n).toList = true := by
  rw [Nat.toString_eq_repr, Nat.toList_repr]
  exact isNumeral_of_digits Nat.toDigits_ne_nil (Decimal.all_toDigits n)

lemma prints_numeral {spelling : String} (h : isNumeral spelling.toList = true) :
    Prints spelling.toList [.number spelling false] := by
  refine ⟨by simpa using spells_numeral h,
    by simp [Tame, untidySigns, Token.isKeyword, Token.keyword?], ?_⟩
  cases hcs : spelling.toList with
  | nil => simp [hcs, isNumeral] at h
  | cons c cs =>
    have hdigit : c.isDigit = true := by
      by_contra hc
      simp [hcs, isNumeral, hc] at h
    exact ⟨c, cs, rfl, fun heq => by simp [heq] at hdigit, fun heq => by simp [heq] at hdigit⟩

/-- **Literals.** A literal that can be read is one token. -/
lemma prints_constant {value : Constant} (h : value.legible = true) :
    Prints value.render.toList [value.token] := by
  cases value with
  | null => exact prints_word (by decide) (by decide)
  | boolean value => cases value <;> exact prints_word (by decide) (by decide)
  | integer n =>
    simp only [Constant.legible, Bool.and_eq_true, decide_eq_true_eq] at h
    obtain ⟨n, rfl⟩ := Int.eq_ofNat_of_zero_le h.1
    exact prints_numeral (isNumeral_natural n)
  | real x =>
    simp only [Constant.legible, Bool.and_eq_true] at h
    exact prints_numeral h.1.1
  | text value =>
    refine ⟨spells_textLiteral value (.inl rfl),
      by simp [Tame, untidySigns, Token.isKeyword, Token.keyword?, Constant.token], '\'', _,
      by simp [Constant.render, Constant.textLiteral]; rfl, by decide,
      fun heq => absurd heq (by decide)⟩

/-! ### Expressions -/

section Expressions

variable {reserved : Reserved}

/-- An operator stands between two arguments. -/
lemma Prints.operation {cs cs' : List Char} {ts ts' : List Token} (h : Prints cs ts)
    (h' : Prints cs' ts') (op : BinaryOp) :
    Prints (cs ++ ' ' :: (op.symbol.toList ++ ' ' :: cs')) (ts ++ (op.tokens ++ ts')) := by
  have hblank : Spells .ansi anything [' '] [] := Spells.blank
  have hright := op.spells.append (hblank.append h'.spells fun _ _ => trivial) fun _ _ => rfl
  have hboth := h.spells.append (hblank.append hright fun _ _ => trivial)
    fun rest _ => endsTerm_cons (by simp) _
  have htame : ∀ t ∈ op.tokens, Tame t := by
    cases op <;> decide
  obtain ⟨c, cs'', rfl, hc, hminus⟩ := h.begins
  refine ⟨by simpa using hboth, by simpa [or_imp, forall_and] using ⟨h.tame, htame, h'.tame⟩,
    c, _, rfl, hc, fun heq => ?_⟩
  simp [List.head?_append, hminus heq]

/-- A call of a function, with arguments or without any. Its name ends at a parenthesis as well. -/
lemma Prints.call {name text : String} {names ts : List Token} (hname : Prints name.toList names)
    (hends : Spells .ansi EndsWord name.toList names)
    (h : text = "" ∧ ts = [] ∨ Prints text.toList ts) :
    Prints (name ++ "(" ++ text ++ ")").toList (names ++ .sign "(" :: (ts ++ [.sign ")"])) := by
  have hopen := spells_mark (by decide : ('(', "(") ∈ marks)
  have hclose := spells_mark (by decide : (')', ")") ∈ marks)
  have hsigns : Tame (.sign "(") ∧ Tame (.sign ")") := by decide
  have hinside : Spells .ansi EndsTerm (text.toList ++ [')']) (ts ++ [.sign ")"]) := by
    rcases h with ⟨rfl, rfl⟩ | h
    · exact hclose.mono fun _ _ => trivial
    · exact h.spells.append (hclose.mono fun _ _ => trivial)
        fun rest _ => endsTerm_cons (by simp) rest
  have hts : ∀ t ∈ ts, Tame t := by
    rcases h with ⟨-, rfl⟩ | h
    · simp
    · exact h.tame
  obtain ⟨c, cs, hcs, hc, hminus⟩ := hname.begins
  refine ⟨?_, by simpa [or_imp, forall_and, hsigns, and_assoc] using ⟨hname.tame, hts⟩, c, _,
    by simp [hcs]; rfl, hc, fun heq => by simp [List.head?_append, hminus heq]⟩
  have hall := hends.append (hopen.append hinside fun _ _ => trivial)
    fun rest _ => by simp [EndsWord, wordEnds]
  simpa using hall

lemma Prints.encloses {text : String} {ts : List Token} (h : Prints text.toList ts)
    (needed : Bool) :
    Prints (Expr.enclosed needed text).toList (enclosedTokens needed ts) := by
  cases needed with
  | false => exact h
  | true => simpa [Expr.enclosed, enclosedTokens] using h.enclosed

/-- An operator stands before or after its argument. -/
lemma Prints.unary {op : UnaryOp} {text : String} {ts : List Token} (h : Prints text.toList ts)
    (hop : op ≠ .bitwiseNot) (hminus : op = .minus → ts.head? ≠ some (.sign "-")) :
    Prints (op.render text).toList (op.tokens ts) := by
  have his := prints_word (by decide : Reserved.isPlainWord "IS".toList = true) (by decide)
  have hnot := prints_word (by decide : Reserved.isPlainWord "NOT".toList = true) (by decide)
  have hnull := prints_word (by decide : Reserved.isPlainWord "NULL".toList = true) (by decide)
  cases op with
  | plus =>
    simpa [UnaryOp.render, UnaryOp.tokens] using
      h.mark (c := '+') (by decide) (by decide) (by decide)
  | minus => simpa [UnaryOp.render, UnaryOp.tokens] using h.minus (hminus rfl)
  | not => simpa [UnaryOp.render, UnaryOp.tokens] using hnot.blank h
  | bitwiseNot => exact absurd rfl hop
  | isNull => simpa [UnaryOp.render, UnaryOp.tokens] using h.blank (his.blank hnull)
  | isNotNull =>
    simpa [UnaryOp.render, UnaryOp.tokens] using h.blank (his.blank (hnot.blank hnull))

mutual

/-- **Expressions.** The text of an expression that can be read prints its tokens. -/
lemma Expr.prints (hreserved : reserved.IsComplete) {asterisk : Bool} (e : Expr)
    (h : e.legible reserved asterisk = true) :
    Prints (e.render reserved).toList (e.tokens reserved) := by
  cases e with
  | const value => exact prints_constant h
  | var v =>
    refine prints_variable hreserved fun hnil => ?_
    simp [legible, Variable.legible, hnil] at h
  | unary op arg =>
    simp only [legible, Bool.and_eq_true, Bool.not_eq_true', bne_iff_ne] at h
    obtain ⟨⟨⟨harg, -⟩, hop⟩, hminus⟩ := h
    refine ((Expr.prints hreserved arg harg).encloses arg.isOperation).unary hop ?_
    rintro rfl hhead
    simp [hhead] at hminus
  | binary family op left right =>
    simp only [legible, Bool.and_eq_true] at h
    obtain ⟨⟨⟨⟨-, hleft⟩, -⟩, hright⟩, -⟩ := h
    have := ((Expr.prints hreserved left hleft).encloses left.isOperation).operation
      ((Expr.prints hreserved right hright).encloses (enclosedAfter op right)) op
    simpa [render, tokens] using this
  | call kind name args =>
    simp only [legible, Reserved.mayCall, Bool.and_eq_true, Bool.not_eq_true'] at h
    obtain ⟨⟨⟨-, hname, -⟩, hargs⟩, -⟩ := h
    have hon := (reserved.isPart_token name).not_keyword hreserved
      (by decide : "ON" ∈ quotedWords)
    rw [Reserved.token, if_neg (by simp [hname])] at hon
    rw [render, tokens]
    have hplain := isPlainWord_of_bare hname
    refine (prints_word hplain hon).call (spells_keyword name hplain) ?_
    cases args with
    | nil => exact .inl ⟨rfl, rfl⟩
    | cons arg rest => exact .inr (Expr.printsAll hreserved _ hargs (by simp))
  | underName expr name explicitAs => simp [legible] at h
  | list args =>
    simp only [legible, Bool.and_eq_true, Bool.not_eq_true', List.isEmpty_eq_false_iff] at h
    exact Expr.printsAll hreserved args h.2 h.1

/-- The texts of several expressions with commas between them print their tokens. -/
lemma Expr.printsAll (hreserved : reserved.IsComplete) {asterisk : Bool} (args : List Expr)
    (h : legibleAll reserved asterisk args = true) (hne : args ≠ []) :
    Prints (renderAll reserved args).toList (listed (tokensOfAll reserved args)) := by
  match args, hne with
  | [arg], _ =>
    simp only [legibleAll, Bool.and_eq_true] at h
    exact Expr.prints hreserved arg h.1.1
  | arg :: arg' :: rest, _ =>
    rw [legibleAll, Bool.and_eq_true, Bool.and_eq_true] at h
    have hmore := Expr.printsAll hreserved (arg' :: rest) h.2 (by simp)
    have := (Expr.prints hreserved arg h.1.1).comma hmore
    simpa [renderAll, tokensOfAll, listed] using this

end

end Expressions

end SelectBinding
