import Mathlib.Data.Fintype.Basic
import SelectBinding.Decimal.Numeral
import SelectBinding.Expr.Render
import SelectBinding.Proofs.Letters
import SelectBinding.Proofs.Outcome
import SelectBinding.Proofs.Sql.Lexing

/-!
The pieces that statements are put together of: words, quoted names, texts, numbers and signs.
-/

namespace SelectBinding.Sql.Tokenizer

/-! ### Characters -/

/-- The characters that operators begin with. -/
def signChars : List Char :=
  ['-', '+', '*', '/', '%', '|', '=', '!', '<', '>', ':', '&', '^', '~', '#', '@', '(', ')', ',',
   ';', '\\', '[', ']', '\x7b', '\x7d']

lemma operators_start :
    ∀ entry ∈ operators, entry.1.toList.head?.any signChars.contains = true := by
  decide

lemma operator?_eq_none {dialect : Dialect} {c : Char} (hc : c ∉ signChars) (rest : List Char) :
    operator? dialect (c :: rest) = none := by
  have hfind : (operators.find? fun entry => entry.1.toList.isPrefixOf (c :: rest)) = none := by
    rw [List.find?_eq_none]
    intro entry hentry
    have hstart := operators_start entry hentry
    obtain ⟨d, hd, hsign⟩ := (Option.any_eq_true _ _).mp hstart
    obtain ⟨ds, hds⟩ := List.head?_eq_some_iff.mp hd
    have hne : d ≠ c := fun h => hc (h ▸ by simpa using hsign)
    simp [hds, List.isPrefixOf, hne]
  simp [operator?, hfind]

/-- What may stand at the end of a word. -/
def wordEnds : List Char :=
  [' ', ',', '.', '(', ')']

/-- The text begins with something at which a word ends. -/
def EndsWord (rest : List Char) : Prop :=
  ∀ c ∈ rest.head?, c ∈ wordEnds

/-- The text begins with something at which anything but a name ends. -/
def EndsTerm (rest : List Char) : Prop :=
  ∀ c ∈ rest.head?, c ∈ [' ', ',', ')']

lemma EndsTerm.endsWord {rest : List Char} (h : EndsTerm rest) : EndsWord rest := by
  intro c hc
  have := h c hc
  simp only [List.mem_cons, List.not_mem_nil, or_false, wordEnds] at this ⊢
  tauto

lemma continuesPlain_ascii {c : Char} (h : Reserved.continuesPlainWord c = true) :
    c.toNat < 128 := by
  have hupper : 'Z'.val.toNat = 90 := rfl
  have hlower : 'z'.val.toNat = 122 := rfl
  have hdigit : '9'.val.toNat = 57 := rfl
  have hval : c.toNat = c.val.toNat := rfl
  have hranges : (((decide ('A'.val ≤ c.val ∧ c.val ≤ 'Z'.val) ||
      (decide ('a'.val ≤ c.val) && decide (c.val ≤ 'z'.val))) ||
      (decide ('0'.val ≤ c.val) && decide (c.val ≤ '9'.val))) || c == '_') = true := h
  simp only [Bool.or_eq_true, beq_iff_eq, Bool.and_eq_true, decide_eq_true_eq,
    UInt32.le_iff_toNat_le] at hranges
  rcases hranges with ((⟨-, h⟩ | ⟨-, h⟩) | ⟨-, h⟩) | rfl
  · omega
  · omega
  · omega
  · decide

lemma continues_of_starts {c : Char} (h : Reserved.startsPlainWord c = true) :
    Reserved.continuesPlainWord c = true := by
  simp only [Reserved.startsPlainWord, Reserved.continuesPlainWord, Char.isAlphanum,
    Bool.or_eq_true] at h ⊢
  tauto

/-- The first character of a plain word begins nothing else. -/
lemma plainStart (dialect : Dialect) {c : Char} (h : Reserved.startsPlainWord c = true) :
    isBlank dialect c = false ∧ c ∉ signChars ∧ c ∉ ['\'', '"', '\x60', '.', '?', '$'] ∧
      c.isDigit = false ∧ dialect.startsWord c = true := by
  refine Name.forall_ascii (P := fun c => Reserved.startsPlainWord c = true →
    isBlank dialect c = false ∧ c ∉ signChars ∧ c ∉ ['\'', '"', '\x60', '.', '?', '$'] ∧
      c.isDigit = false ∧ dialect.startsWord c = true) ?_
    (continuesPlain_ascii (continues_of_starts h)) h
  cases dialect <;> decide

lemma continuesWord_of_plain (dialect : Dialect) {c : Char}
    (h : Reserved.continuesPlainWord c = true) :
    dialect.continuesWord c = true ∧ c ∉ ['\'', '"', '&'] := by
  refine Name.forall_ascii (P := fun c => Reserved.continuesPlainWord c = true →
    dialect.continuesWord c = true ∧ c ∉ ['\'', '"', '&']) ?_ (continuesPlain_ascii h) h
  cases dialect <;> decide

lemma not_continuesWord_of_end (dialect : Dialect) {c : Char} (h : c ∈ wordEnds) :
    dialect.continuesWord c = false ∧ c ∉ ['\'', '"', '&'] := by
  have hends : wordEnds.all fun c =>
      !dialect.continuesWord c && decide (c ∉ ['\'', '"', '&']) := by
    cases dialect <;> decide
  simpa using List.all_eq_true.mp hends c h

/-- A name in quotes of any kind begins with a quote or a bracket. -/
lemma closingQuote?_eq_none {dialect : Dialect} {c : Char} (h : c ∉ ['"', '\x60', '[']) :
    dialect.closingQuote? c = none := by
  simp only [List.mem_cons, List.not_mem_nil, or_false, not_or] at h
  cases dialect <;> simp [Dialect.closingQuote?, h]

/-! ### Words -/

/-- No string begins where the second character is no quote. -/
lemma lettered_eq_none_of_next {dialect : Dialect} {c : Char} {rest : List Char}
    (h : ∀ d ∈ rest.head?, d ∉ ['\'', '"', '&']) : lettered dialect (c :: rest) = none := by
  unfold lettered
  split <;> simp_all

/-- The text begins with nothing that would go on with a word, or make a text of it. -/
def StopsWord (dialect : Dialect) (rest : List Char) : Prop :=
  ∀ c ∈ rest.head?, dialect.continuesWord c = false ∧ c ∉ ['\'', '"', '&']

lemma EndsWord.stopsWord {dialect : Dialect} {rest : List Char} (h : EndsWord rest) :
    StopsWord dialect rest :=
  fun c hc => not_continuesWord_of_end dialect (h c hc)

/-- A plain word is the next token. -/
lemma step_word {dialect : Dialect} {c : Char} {cs after : List Char}
    (h : Reserved.isPlainWord (c :: cs) = true) (hafter : StopsWord dialect after) :
    step dialect c (cs ++ after) = .ok (some (.word (String.ofList (c :: cs)) none), after) := by
  simp only [Reserved.isPlainWord, Bool.and_eq_true, List.all_eq_true] at h
  obtain ⟨hstart, hmore⟩ := h
  obtain ⟨hblank, hsign, hmarks, hdigit, hword⟩ := plainStart dialect hstart
  have hc : c ≠ '-' ∧ c ≠ '/' ∧ c ≠ '@' ∧ c ≠ '#' ∧ c ≠ '[' := by
    simp only [signChars, List.mem_cons, not_or] at hsign
    tauto
  simp only [List.mem_cons, List.not_mem_nil, or_false, not_or] at hmarks
  have hquote : dialect.closingQuote? c = none := closingQuote?_eq_none (by simp [hmarks, hc])
  have hcomment : startsLineComment dialect (c :: (cs ++ after)) = false := by
    simp [startsLineComment, List.isPrefixOf, Ne.symm hc.1, hc]
  have hnext : ∀ d ∈ (cs ++ after).head?, d ∉ ['\'', '"', '&'] := by
    intro d hd
    cases cs with
    | nil => exact (hafter d hd).2
    | cons d' cs =>
      obtain rfl := Option.some.inj hd
      exact (continuesWord_of_plain dialect (hmore _ (by simp))).2
  have hrun := takeWhile_append_of_stop (p := dialect.continuesWord)
    (List.all_eq_true.mpr fun d hd => (continuesWord_of_plain dialect (hmore d hd)).1)
    fun d hd => (hafter d hd).1
  have htoken : token dialect c (cs ++ after) =
      .ok (.word (String.ofList (c :: cs)) none, after) := by
    unfold token
    simp only [lettered_eq_none_of_next hnext]
    simp [hquote, hmarks, hdigit, hc, markedWord?, operator?_eq_none hsign, hword,
      bareWord, hrun, found, List.isPrefixOf, Ne.symm hc.2.1]
  rw [step_eq_token hblank hcomment hc.2.1, htoken]
  rfl

/-- **Words.** A plain word is one token. -/
lemma spells_word {dialect : Dialect} {cs : List Char} (h : Reserved.isPlainWord cs = true) :
    Spells dialect EndsWord cs [.word (String.ofList cs) none] := by
  obtain _ | ⟨c, cs⟩ := cs
  · simp [Reserved.isPlainWord] at h
  exact Spells.of_step fun after hafter => step_word h hafter.stopsWord

lemma spells_keyword (word : String) (h : Reserved.isPlainWord word.toList = true) :
    Spells .ansi EndsWord word.toList [.word word none] := by
  simpa using spells_word h

lemma endsWord_blank (rest : List Char) : EndsWord (' ' :: rest) := by
  simp [EndsWord, wordEnds]

/-- Two words with a blank between them. -/
lemma Spells.words {cs cs' : List Char} {tokens tokens' : List Token} {may : List Char → Prop}
    (h : Spells .ansi EndsWord cs tokens) (h' : Spells .ansi may cs' tokens') :
    Spells .ansi may (cs ++ ' ' :: cs') (tokens ++ tokens') := by
  have hblank : Spells .ansi anything [' '] [] := blank
  simpa using h.append (hblank.append h' fun _ _ => trivial) fun rest _ => endsWord_blank _

/-! ### Quoted names and texts -/

/-- A text ends at the first quote that is not doubled, unless a backslash takes a quote along. -/
lemma upToQuote_doubled {quote : Char} {backslash : Bool} {rest : List Char} (cs : List Char)
    (hescape : backslash = false ∨ '\\' ∉ cs) (h : rest.head? ≠ some quote) :
    upToQuote quote backslash
      ((cs.flatMap fun c => if c = quote then [quote, quote] else [c]) ++ quote :: rest) =
        some (cs, rest) := by
  induction cs with
  | nil =>
    cases rest with
    | nil => simp [upToQuote]
    | cons d rest =>
      have hd : d ≠ quote := fun h' => h (by rw [h']; rfl)
      simp [upToQuote, hd]
  | cons c cs ih =>
    have ih := ih (hescape.imp_right fun h => List.not_mem_of_not_mem_cons h)
    by_cases hc : c = quote
    · simp [upToQuote, hc, ih]
    · have hplain : (backslash && c == '\\') = false := by
        rcases hescape with rfl | hescape
        · rfl
        · simp [Ne.symm (List.ne_of_not_mem_cons hescape)]
      rw [List.flatMap_cons, if_neg hc, List.singleton_append, List.cons_append, upToQuote.eq_def]
      simp only [hc, if_false, hplain, Bool.false_eq_true, ih, Option.map_some]

lemma lettered_eq_none {dialect : Dialect} {c : Char}
    (h : c.toLower ∉ ['b', 'r', 'n', 'e', 'x', 'u']) (rest : List Char) :
    lettered dialect (c :: rest) = none := by
  simp only [List.mem_cons, List.not_mem_nil, or_false, not_or] at h
  unfold lettered
  split
  · split <;> simp_all
  · split <;> simp_all
  · simp_all
  · rfl

lemma toList_inQuotes (name : String) :
    (Reserved.inQuotes name).toList = '"' ::
      ((name.toList.flatMap fun c => if c = '"' then ['"', '"'] else [c]) ++ ['"']) := by
  simp [Reserved.inQuotes]

/-- **Quoted names.** Where double quotes make a name, a name in quotes is one token, whatever its
characters are. -/
lemma spells_inQuotes {dialect : Dialect} (hquote : dialect.closingQuote? '"' = some '"')
    (name : String) :
    Spells dialect EndsWord (Reserved.inQuotes name).toList [.word name (some '"')] := by
  have hblank : isBlank dialect '"' = false := by cases dialect <;> decide
  rw [toList_inQuotes]
  refine Spells.of_token hblank (fun _ _ => ?_) (by decide) fun after hafter => ?_
  · simp [startsLineComment, List.isPrefixOf]
  have hrest : after.head? ≠ some '"' := by
    intro h
    have := hafter '"' (by simp [h])
    simp [wordEnds] at this
  unfold token
  simp only [lettered_eq_none (c := '"') (by decide)]
  simp [hquote, quotedWord, upToQuote_doubled name.toList (.inl rfl) hrest, found]

lemma toList_textLiteral (value : String) :
    (Constant.textLiteral value).toList = '\'' ::
      ((value.toList.flatMap fun c => if c = '\'' then ['\'', '\''] else [c]) ++ ['\'']) := by
  simp [Constant.textLiteral]

/-- **Texts.** A text in single quotes is one token, unless a backslash in it takes a character
along. -/
lemma spells_textLiteral {dialect : Dialect} (value : String)
    (hescape : dialect.escapesInText = false ∨ '\\' ∉ value.toList) :
    Spells dialect EndsTerm (Constant.textLiteral value).toList [.string .plain value] := by
  have hblank : isBlank dialect '\'' = false := by cases dialect <;> decide
  rw [toList_textLiteral]
  refine Spells.of_token hblank (fun _ _ => ?_) (by decide) fun after hafter => ?_
  · simp [startsLineComment, List.isPrefixOf]
  have hrest : after.head? ≠ some '\'' := by
    intro h
    have := hafter '\'' (by simp [h])
    simp at this
  unfold token
  simp only [lettered_eq_none (c := '\'') (by decide)]
  simp [string, upToQuote_doubled value.toList hescape hrest, found]

/-- The quotes of texts in the dialect that puts names between backticks. -/
def textQuotes : List (Char × StringKind) :=
  [('\'', .plain), ('"', .inDouble)]

lemma step_text {quote : Char} {kind : StringKind} (h : (quote, kind) ∈ textQuotes)
    (rest : List Char) :
    step .mysql quote rest =
      (string kind quote true (quote :: rest)).map fun r => (some r.1, r.2) := by
  have hcomment : startsLineComment .mysql (quote :: rest) = false ∧ quote ≠ '/' ∧
      isBlank .mysql quote = false ∧ quote.toLower ∉ ['b', 'r', 'n', 'e', 'x', 'u'] := by
    simp only [textQuotes, List.mem_cons, Prod.mk.injEq, List.not_mem_nil, or_false] at h
    rcases h with ⟨rfl, rfl⟩ | ⟨rfl, rfl⟩ <;>
      exact ⟨by simp [startsLineComment, List.isPrefixOf], by decide⟩
  obtain ⟨hcomment, hslash, hblank, hletter⟩ := hcomment
  have htoken : token .mysql quote rest = string kind quote true (quote :: rest) := by
    unfold token
    simp only [lettered_eq_none hletter]
    simp only [textQuotes, List.mem_cons, Prod.mk.injEq, List.not_mem_nil, or_false] at h
    rcases h with ⟨rfl, rfl⟩ | ⟨rfl, rfl⟩ <;> rfl
  rw [step_eq_token hblank hcomment hslash, htoken]

/-- The first token after such a quote is the text up to the quote that ends it. -/
lemma tokens_text {quote : Char} {kind : StringKind} (h : (quote, kind) ∈ textQuotes)
    {steps : Nat} {place : Location} {cs : List Char} {located : List Located}
    (hlocated : tokensFrom .mysql (steps + 1) place (quote :: cs) = .ok located) :
    ∃ value rest more, upToQuote quote true cs = some (value, rest) ∧
      located.map Located.token = .string kind (String.ofList value) :: more := by
  obtain ⟨front, rest', more, hstep, -, rfl⟩ := tokensFrom_cons_ok_iff.mp hlocated
  rw [step_text h, string] at hstep
  cases hquote : upToQuote quote true cs with
  | none => simp [hquote, Except.map] at hstep
  | some found' =>
    obtain ⟨value, rest⟩ := found'
    simp only [List.tail_cons, hquote, found, Except.map, Except.ok.injEq, Prod.mk.injEq] at hstep
    obtain ⟨rfl, rfl⟩ := hstep
    exact ⟨value, rest, more.map Located.token, rfl, rfl⟩

/-! ### Signs -/

/-- The marks that are tokens of their own whatever follows them. -/
def marks : List (Char × String) :=
  [('(', "("), (')', ")"), (',', ","), ('*', "*"), ('+', "+")]

lemma spells_mark {c : Char} {sign : String} (h : (c, sign) ∈ marks) :
    Spells .ansi anything [c] [.sign sign] := by
  have hplain : ∀ entry ∈ marks, entry.1.toLower ∉ ['b', 'r', 'n', 'e', 'x', 'u'] ∧
      isBlank .ansi entry.1 = false ∧ entry.1 ≠ '/' ∧ entry.1 ≠ '-' := by
    decide
  obtain ⟨hletter, hblank, hslash, hminus⟩ := hplain _ h
  refine Spells.of_token hblank (fun after _ => ?_) hslash fun after _ => ?_
  · simp [startsLineComment, List.isPrefixOf, Ne.symm hminus]
  · unfold token
    simp only [lettered_eq_none hletter]
    simp only [marks, List.mem_cons, Prod.mk.injEq, List.not_mem_nil, or_false] at h
    rcases h with ⟨rfl, rfl⟩ | ⟨rfl, rfl⟩ | ⟨rfl, rfl⟩ | ⟨rfl, rfl⟩ | ⟨rfl, rfl⟩ <;> rfl

/-- A minus sign is one token unless it begins a comment or an arrow. -/
lemma spells_minus :
    Spells .ansi (fun rest => ∀ c ∈ rest.head?, c ≠ '-' ∧ c ≠ '>') ['-'] [.sign "-"] := by
  refine Spells.of_token (by decide) (fun after h => ?_) (by decide) fun after h => ?_
  · cases after with
    | nil => rfl
    | cons d after => simp [startsLineComment, List.isPrefixOf, Ne.symm (h d (by simp)).1]
  · unfold token
    simp only [lettered_eq_none (c := '-') (by decide)]
    cases after with
    | nil => rfl
    | cons d after =>
      have hd : ('>' == d) = false := by simpa using Ne.symm (h d (by simp)).2
      simp [operator?, operators, List.isPrefixOf, hd, Dialect.closingQuote?, markedWord?,
        Dialect.continuesOperator]

/-- A point is the next token unless digits follow it. -/
lemma step_point {after : List Char} (h : ∀ c ∈ after.head?, c.isDigit = false) :
    step .ansi '.' after = .ok (some (.sign "."), after) := by
  have hnone := takeWhile_append_of_stop (p := Char.isDigit) (l := []) (by simp) h
  simp only [List.nil_append] at hnone
  have htoken : token .ansi '.' after = .ok (.sign ".", after) := by
    unfold token
    simp only [lettered_eq_none (c := '.') (by decide)]
    simp [Dialect.closingQuote?, number, hnone, found]
  rw [step_eq_token (by decide) rfl (by decide), htoken]
  rfl

lemma spells_point :
    Spells .ansi (fun rest => ∀ c ∈ rest.head?, c.isDigit = false) ['.'] [.sign "."] :=
  Spells.of_step fun _ h => step_point h

/-- A point stands between a name and what follows it, which does not begin with a digit. -/
lemma Spells.pointed {cs cs' : List Char} {ts ts' : List Token} (h : Spells .ansi EndsWord cs ts)
    (h' : Spells .ansi EndsWord cs' ts') {c : Char} {cs'' : List Char} (hcs : cs' = c :: cs'')
    (hdigit : c.isDigit = false) :
    Spells .ansi EndsWord (cs ++ '.' :: cs') (ts ++ .sign "." :: ts') := by
  have hpoint := spells_point.append h' fun after _ d hd => ?_
  · simpa using h.append hpoint fun after _ => by simp [EndsWord, wordEnds]
  · rw [hcs] at hd
    obtain rfl := Option.some.inj hd
    exact hdigit

/-! ### Numbers -/

/-- Whether a text is a numeral without a sign: digits, perhaps a point and more digits, and perhaps
an exponent. -/
def isNumeral (cs : List Char) : Bool :=
  let rest :=
    match cs.dropWhile Char.isDigit with
    | '.' :: rest => rest.dropWhile Char.isDigit
    | rest => rest
  !(cs.takeWhile Char.isDigit).isEmpty && (Decimal.exponentPart? rest).isSome

/-- The characters are nothing at all or an exponent. -/
inductive IsExponent : List Char → Prop where
  | absent : IsExponent []
  | present {c : Char} (sign : List Char) {digits : List Char} (hc : c = 'e' ∨ c = 'E')
      (hsign : sign = [] ∨ sign = ['+'] ∨ sign = ['-']) (hne : digits ≠ [])
      (hdigits : digits.all Char.isDigit = true) : IsExponent (c :: (sign ++ digits))

lemma isExponent_of_exponentPart? {cs : List Char}
    (h : (Decimal.exponentPart? cs).isSome = true) : IsExponent cs := by
  unfold Decimal.exponentPart? at h
  split at h
  · exact .absent
  · rename_i c rest
    split at h
    · rename_i hc
      split at h
      rename_i negative digits hparts
      split at h
      · simp at h
      · rename_i hdigits
        simp only [Bool.or_eq_true, List.isEmpty_iff, Bool.not_eq_true', not_or,
          Bool.not_eq_false] at hdigits
        split at hparts <;> obtain ⟨-, rfl⟩ := Prod.mk.inj hparts
        · exact .present ['-'] hc (by simp) hdigits.1 hdigits.2
        · exact .present ['+'] hc (by simp) hdigits.1 hdigits.2
        · exact .present [] hc (by simp) hdigits.1 hdigits.2
    · simp at h

/-- The exponent of a number is read up to the end of its digits. -/
lemma exponent?_append {cs after : List Char} (h : IsExponent cs) (hafter : EndsTerm after) :
    exponent? (cs ++ after) = if cs = [] then none else some (cs, after) := by
  have hends : ∀ c ∈ after.head?, c.isDigit = false ∧ c ≠ 'e' ∧ c ≠ 'E' := by
    intro c hc
    have := hafter c hc
    simp only [List.mem_cons, List.not_mem_nil, or_false] at this
    rcases this with rfl | rfl | rfl <;> decide
  cases h with
  | absent =>
    cases after with
    | nil => rfl
    | cons c after =>
      obtain ⟨-, he, hE⟩ := hends c (by simp)
      simp [exponent?, he, hE]
  | @present c sign digits hc hsign hne hdigits =>
    obtain ⟨htake, hdrop⟩ := takeWhile_append_of_stop hdigits fun a ha => (hends a ha).1
    have hhead : ∀ d ∈ (digits ++ after).head?, d.isDigit = true := by
      intro d hd
      cases digits with
      | nil => exact absurd rfl hne
      | cons d' digits =>
        obtain rfl := Option.some.inj hd
        simpa using (List.all_eq_true.mp hdigits) d' (by simp)
    rcases hsign with rfl | rfl | rfl
    · simp only [List.nil_append, List.cons_append, exponent?, if_pos hc, reduceCtorEq, if_false]
      split
      · rename_i ds heq
        have := hhead '+' (by simp [heq])
        simp at this
      · rename_i ds heq
        have := hhead '-' (by simp [heq])
        simp at this
      · simp [htake, hdrop, hne]
    · simp [exponent?, hc, htake, hdrop, hne]
    · simp [exponent?, hc, htake, hdrop, hne]

lemma afterDigits_append {spelling cs after : List Char} (h : IsExponent cs)
    (hafter : EndsTerm after) :
    afterDigits .ansi spelling (cs ++ after) =
      .ok (.number (String.ofList (spelling ++ cs)) false, after) := by
  have hfinish (spelling : List Char) :
      finishNumber spelling after = .ok (.number (String.ofList spelling) false, after) := by
    unfold finishNumber
    split
    · have := hafter 'L' (by simp)
      simp at this
    · rfl
  have hexponent := exponent?_append h hafter
  unfold afterDigits
  cases h with
  | absent =>
    simp only [List.nil_append, if_true] at hexponent ⊢
    rw [hexponent]
    simp [Dialect.wordsStartWithDigits, hfinish]
  | present sign hc hsign hne hdigits =>
    rw [hexponent]
    simp [hfinish]

/-- What follows the digits of a number is neither a digit nor the letter of another notation. -/
lemma head_exponent_append {cs after : List Char} (h : IsExponent cs) (hafter : EndsTerm after) :
    ∀ c ∈ (cs ++ after).head?, c.isDigit = false ∧ c ≠ '.' ∧ c ≠ 'x' := by
  intro c hc
  cases h with
  | absent =>
    have := hafter c hc
    simp only [List.mem_cons, List.not_mem_nil, or_false] at this
    rcases this with rfl | rfl | rfl <;> decide
  | present _ hletter =>
    obtain rfl := Option.some.inj hc
    rcases hletter with rfl | rfl <;> decide

lemma number_whole {whole cs after : List Char} (hwhole : whole.all Char.isDigit = true)
    (h : IsExponent cs) (hafter : EndsTerm after) :
    number .ansi (whole ++ (cs ++ after)) =
      .ok (.number (String.ofList (whole ++ cs)) false, after) := by
  have hhead := head_exponent_append h hafter
  obtain ⟨htake, hdrop⟩ := takeWhile_append_of_stop hwhole fun c hc => (hhead c hc).1
  simp only [number, htake, hdrop]
  split
  · rename_i heq
    exact absurd rfl (hhead 'x' (by simp [heq])).2.2
  · rename_i heq
    exact absurd rfl (hhead '.' (by simp [heq])).2.1
  · exact afterDigits_append h hafter

lemma number_fraction {whole fraction cs after : List Char}
    (hwhole : whole.all Char.isDigit = true) (hne : whole ≠ [])
    (hfraction : fraction.all Char.isDigit = true) (h : IsExponent cs) (hafter : EndsTerm after) :
    number .ansi (whole ++ '.' :: (fraction ++ (cs ++ after))) =
      .ok (.number (String.ofList (whole ++ '.' :: fraction ++ cs)) false, after) := by
  have hpoint : ∀ c ∈ ('.' :: (fraction ++ (cs ++ after))).head?, c.isDigit = false := by
    simp
  obtain ⟨htake, hdrop⟩ := takeWhile_append_of_stop hwhole hpoint
  obtain ⟨htake', hdrop'⟩ := takeWhile_append_of_stop hfraction
    fun c hc => (head_exponent_append h hafter c hc).1
  simp [number, htake, hdrop, htake', hdrop', hne, afterDigits_append h hafter]

lemma digitStart {c : Char} (h : c.isDigit = true) :
    isBlank .ansi c = false ∧ c.toLower ∉ ['b', 'r', 'n', 'e', 'x', 'u'] ∧
      c ∉ ['-', '/', '\'', '"', '\x60'] := by
  have hplain : Reserved.continuesPlainWord c = true := by
    simp [Reserved.continuesPlainWord, Char.isAlphanum, h]
  exact Name.forall_ascii (P := fun c => c.isDigit = true →
    isBlank .ansi c = false ∧ c.toLower ∉ ['b', 'r', 'n', 'e', 'x', 'u'] ∧
      c ∉ ['-', '/', '\'', '"', '\x60']) (by decide) (continuesPlain_ascii hplain) h

/-- **Numbers.** A numeral is one token. -/
lemma spells_numeral {cs : List Char} (h : isNumeral cs = true) :
    Spells .ansi EndsTerm cs [.number (String.ofList cs) false] := by
  have hsplit := List.takeWhile_append_dropWhile (p := Char.isDigit) (l := cs)
  simp only [isNumeral, Bool.and_eq_true, Bool.not_eq_true', List.isEmpty_eq_false_iff] at h
  obtain ⟨hne, hrest⟩ := h
  have hnumber (after : List Char) (hafter : EndsTerm after) :
      number .ansi (cs ++ after) = .ok (.number (String.ofList cs) false, after) := by
    split at hrest
    · rename_i rest heq
      have hcs : cs.takeWhile Char.isDigit ++
          '.' :: (rest.takeWhile Char.isDigit ++ rest.dropWhile Char.isDigit) = cs := by
        rw [List.takeWhile_append_dropWhile, ← heq, hsplit]
      have hnumber := number_fraction List.all_takeWhile hne
        (List.all_takeWhile (l := rest)) (isExponent_of_exponentPart? hrest) hafter
      simp only [← List.append_assoc, ← List.cons_append] at hnumber hcs
      rwa [hcs] at hnumber
    · have hnumber := number_whole (List.all_takeWhile (l := cs))
        (isExponent_of_exponentPart? hrest) hafter
      rwa [← List.append_assoc, hsplit] at hnumber
  obtain _ | ⟨c, cs⟩ := cs
  · simp at hne
  have hc : c.isDigit = true := by
    by_contra hc
    simp [hc] at hne
  obtain ⟨hblank, hletter, hmarks⟩ := digitStart hc
  simp only [List.mem_cons, List.not_mem_nil, or_false, not_or] at hmarks
  refine Spells.of_token hblank (fun after _ => ?_) hmarks.2.1 fun after hafter => ?_
  · simp [startsLineComment, List.isPrefixOf, Ne.symm hmarks.1]
  · unfold token
    simp only [lettered_eq_none hletter]
    simpa [Dialect.closingQuote?, hmarks, hc] using hnumber after hafter

/-! ### Operators -/

end SelectBinding.Sql.Tokenizer

namespace SelectBinding.BinaryOp

open Sql

/-- The tokens that an operator is spelled with. -/
def tokens : BinaryOp → List Token
  | .like => [.word "LIKE" none]
  | .notLike => [.word "NOT" none, .word "LIKE" none]
  | .isIn => [.word "IN" none]
  | .notIn => [.word "NOT" none, .word "IN" none]
  | .and => [.word "AND" none]
  | .or => [.word "OR" none]
  | .xor => [.word "XOR" none]
  | op => [.sign op.symbol]

/-- **Operators.** An operator between blanks is spelled as it is shown. -/
lemma spells (op : BinaryOp) :
    Tokenizer.Spells .ansi (fun rest => rest.head? = some ' ') op.symbol.toList op.tokens := by
  have hword (word : String) (h : Reserved.isPlainWord word.toList = true) :
      Tokenizer.Spells .ansi (fun rest => rest.head? = some ' ') word.toList
        [.word word none] := by
    refine (Tokenizer.spells_keyword word h).mono fun rest hrest c hc => ?_
    obtain rfl : ' ' = c := by simpa [hrest] using hc
    simp [Tokenizer.wordEnds]
  cases op with
  | notLike => exact (Tokenizer.spells_keyword "NOT" rfl).words (hword "LIKE" rfl)
  | notIn => exact (Tokenizer.spells_keyword "NOT" rfl).words (hword "IN" rfl)
  | like => exact hword "LIKE" rfl
  | isIn => exact hword "IN" rfl
  | and => exact hword "AND" rfl
  | or => exact hword "OR" rfl
  | xor => exact hword "XOR" rfl
  | _ =>
    intro rest more hrest hmore
    obtain ⟨tail, rfl⟩ := List.head?_eq_some_iff.mp hrest
    exact .token rfl (by simp) hmore

end SelectBinding.BinaryOp
