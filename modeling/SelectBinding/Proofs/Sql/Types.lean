import SelectBinding.Proofs.Sql.Running
import SelectBinding.Sql.Grammar.Terms

/-!
Words that begin no literal of a type.

Every operand is first read as a literal that begins with the name of its type. A word in front of
an operator, a comma or the end of a clause may be the name of a type, but no literal follows it;
a word that is no name of a type is none in front of a parenthesis either.
-/

namespace SelectBinding.Sql.Grammar

open Sql.Parser

/-- The tokens that may follow a whole term: what closes it, the words of the clauses after it, and
the operators. -/
def followers : List Token :=
  [.finish, .sign ",", .sign ")", .word "AS" none, .word "FROM" none, .word "WHERE" none,
   .word "ORDER" none, .word "DESC" none, .word "LIKE" none, .word "NOT" none, .word "IN" none,
   .word "AND" none, .word "OR" none, .word "XOR" none, .word "IS" none, .sign "+", .sign "-",
   .sign "*", .sign "/", .sign "%", .sign "||", .sign "&", .sign "|", .sign "^", .sign "<<",
   .sign ">>", .sign "=", .sign "<>", .sign "<", .sign "<=", .sign ">", .sign ">="]

/-- The parser reads nothing, or fails for another reason than the depth of the statement. -/
def Quiet {α : Type} (p : Parser α) (ls : List Located) (post : α → Prop) : Prop :=
  (∃ a, p ansi ls = .ok (a, ls) ∧ post a) ∨
    ∃ stop, p ansi ls = .error stop ∧ stop.failure ≠ .tooDeep

namespace Quiet

variable {α β : Type} {ls : List Located} {post : α → Prop} {post' : β → Prop}

lemma pure {a : α} (h : post a) : Quiet (pure a) ls post :=
  .inl ⟨a, rfl, h⟩

lemma bind {p : Parser α} {f : α → Parser β} (h : Quiet p ls post)
    (hf : ∀ a, post a → Quiet (f a) ls post') : Quiet (p >>= f) ls post' := by
  rcases h with ⟨a, ha, hpost⟩ | ⟨stop, hstop, hdeep⟩
  · simpa only [Quiet, run_bind, ha] using hf a hpost
  · exact .inr ⟨stop, by simp only [run_bind, hstop], hdeep⟩

lemma of_eq {p : Parser α} {a : α} (h : p ansi ls = .ok (a, ls)) (hpost : post a) :
    Quiet p ls post :=
  .inl ⟨a, h, hpost⟩

lemma of_error {p : Parser α} {stop : Stop} (h : p ansi ls = .error stop)
    (hdeep : stop.failure ≠ .tooDeep) : Quiet p ls post :=
  .inr ⟨stop, h, hdeep⟩

end Quiet

/-- What may follow the name of a field, or a part of it. -/
def AfterName (ls : List Located) : Prop :=
  (front ls).token ∈ .sign "." :: followers

section Bare

variable {ls : List Located}

lemma AfterName.sign (h : AfterName ls) (spelling : String)
    (hs : ∀ t ∈ .sign "." :: followers, t ≠ .sign spelling) (c : Context) :
    Parser.sign spelling c ls = .ok (false, ls) := by
  rw [run_sign, if_neg (hs _ h)]

lemma AfterName.keyword (h : AfterName ls) (word : String)
    (hw : ∀ t ∈ .sign "." :: followers, t.isKeyword word = false) (c : Context) :
    Parser.keyword word c ls = .ok (false, ls) := by
  rw [run_keyword, if_neg (by simp [hw _ h])]

lemma AfterName.keywords (h : AfterName ls) (word : String) {words : List String}
    (hw : ∀ t ∈ .sign "." :: followers, t.isKeyword word = false) (c : Context) :
    Parser.keywords (word :: words) c ls = .ok (false, ls) :=
  run_keywords_of_not (hw _ h)

lemma AfterName.not_open (h : AfterName ls) : (front ls).token ≠ .sign "(" := by
  have hnot : ∀ t ∈ .sign "." :: followers, t ≠ .sign "(" := by decide
  exact hnot _ h

/-- No parenthesis opens after a name. -/
lemma AfterName.expectOpen (h : AfterName ls) : Quiet (expectSign "(") ls fun _ => False := by
  have hstop : expectSign "(" ansi ls =
      .error ⟨.unexpected "(" (front ls).token.text (front ls).place, ls⟩ := by
    rw [run_expectSign, if_neg h.not_open]
  exact .of_error hstop (by simp)

lemma AfterName.parenthesized {α : Type} (h : AfterName ls) (p : Parser α) (post : α → Prop) :
    Quiet (Parser.parenthesized p) ls post :=
  h.expectOpen.bind fun _ hfalse => hfalse.elim

lemma optionalSize_none (h : AfterName ls) : optionalSize ansi ls = .ok ("", ls) := by
  simp only [optionalSize, run_bind, h.sign "(" (by decide)]
  rfl

lemma optionalLength_none (h : AfterName ls) : optionalLength ansi ls = .ok ("", ls) := by
  simp only [optionalLength, run_bind, h.sign "(" (by decide)]
  rfl

lemma optionalPrecision_none (h : AfterName ls) : optionalPrecision ansi ls = .ok ("", ls) := by
  simp only [optionalPrecision, run_bind, h.sign "(" (by decide)]
  rfl

lemma optionalTimeZone_none (h : AfterName ls) : optionalTimeZone ansi ls = .ok ("", ls) := by
  simp only [optionalTimeZone, run_bind, h.keyword "WITH" (by decide)]
  simp [run_bind, h.keyword "WITHOUT" (by decide), run_pure]

lemma characterType_plain (h : AfterName ls) (word : String) :
    characterType word ansi ls = .ok (word, ls) := by
  simp only [characterType, run_bind, h.keyword "VARYING" (by decide)]
  simp [run_bind, h.keywords "LARGE" (by decide), run_map, optionalLength_none h]

/-- **Types.** A name of a type that takes nothing in parentheses is read without what follows. -/
lemma flatType_quiet (h : AfterName ls) {word : String} (hword : word ≠ "INTERVAL") :
    Quiet (flatType word) ls (· ≠ some .interval) := by
  have hsize : Quiet optionalSize ls fun _ => True := .of_eq (optionalSize_none h) trivial
  have hlength : Quiet optionalLength ls fun _ => True := .of_eq (optionalLength_none h) trivial
  have hcharacter (word : String) : Quiet (characterType word) ls fun _ => True :=
    .of_eq (characterType_plain h word) trivial
  have hzone : Quiet optionalTimeZone ls fun _ => True := .of_eq (optionalTimeZone_none h) trivial
  have hkeyword (word : String) (hw : ∀ t ∈ .sign "." :: followers, t.isKeyword word = false) :
      Quiet (Parser.keyword word) ls (· = false) :=
    .of_eq (h.keyword word hw ansi) rfl
  unfold flatType
  split
  · exact .pure (by simp)
  split
  · exact hsize.bind fun _ _ => .pure (by simp)
  split
  · have hprecision : Quiet optionalPrecision ls fun _ => True :=
      .of_eq (optionalPrecision_none h) trivial
    exact hprecision.bind fun _ _ => .pure (by simp)
  split
  · exact hsize.bind fun _ _ => (hkeyword "UNSIGNED" (by decide)).bind fun _ _ => .pure (by simp)
  split
  · exact hlength.bind fun _ _ => .pure (by simp)
  · exact hlength.bind fun _ _ => .pure (by simp)
  · exact (hcharacter _).bind fun _ _ => .pure (by simp)
  · exact (hcharacter _).bind fun _ _ => .pure (by simp)
  · refine (hkeyword "VARYING" (by decide)).bind fun varying hvarying => ?_
    subst hvarying
    exact hsize.bind fun _ _ => .pure (by simp)
  · exact (hkeyword "PRECISION" (by decide)).bind fun _ _ => .pure (by simp)
  · exact hsize.bind fun _ _ => hzone.bind fun _ _ => .pure (by simp)
  · exact hsize.bind fun _ _ => hzone.bind fun _ _ => .pure (by simp)
  · exact hsize.bind fun _ _ => .pure (by simp)
  · exact hsize.bind fun _ _ => .pure (by simp)
  · exact absurd rfl hword
  · exact (h.parenthesized _ fun _ => True).bind fun _ _ => .pure (by simp)
  · exact (h.parenthesized _ fun _ => True).bind fun _ _ => .pure (by simp)
  · exact (h.parenthesized _ fun _ => True).bind fun _ _ => .pure (by simp)
  · have hvalues : Quiet stringValues ls fun _ => False :=
      h.expectOpen.bind fun _ hfalse => hfalse.elim
    exact hvalues.bind fun _ hfalse => hfalse.elim
  · have hinside {α β : Type} (p : Parser α) (f : α → β) :
        Quiet (do return f (← Parser.parenthesized p)) ls fun _ => True :=
      (h.parenthesized p fun _ => True).bind fun _ _ => .pure trivial
    exact (hinside _ _).bind fun _ _ => .pure (by simp)
  · exact (h.parenthesized _ fun _ => True).bind fun _ _ => .pure (by simp)
  · exact .pure (by simp)

/-- A name of a type that contains other types is read up to the parenthesis that is missing. -/
lemma composedType_quiet (h : AfterName ls) (inner : Inner) (type : Parser Bracketed)
    (place : Location) {word : String} (harray : word ≠ "ARRAY") (hstruct : word ≠ "STRUCT") :
    Quiet (composedType inner type place word) ls (· = none) := by
  have htypeOf (name : String) (inside : Parser String) :
      Quiet (typeOf name inside) ls (· = none) :=
    (h.parenthesized inside fun _ => False).bind fun _ hfalse => hfalse.elim
  unfold composedType
  rw [if_neg (by simpa using harray)]
  have hansi : Quiet (dialectIn [.ansi]) ls (· = true) := .of_eq rfl rfl
  refine hansi.bind fun inAnsi hin => ?_
  subst hin
  simp only [if_true]
  split
  · exact absurd rfl hstruct
  · exact htypeOf _ _
  · exact htypeOf _ _
  · exact htypeOf _ _
  · exact htypeOf _ _
  · exact htypeOf _ _
  · exact htypeOf _ _
  · exact .pure rfl

end Bare

/-! ### Words that are no types -/

/-- The parser leaves none but tokens that were there, or fails for another reason than the depth of
the statement. -/
def Mild {α : Type} (p : Parser α) (post : α → Prop) : Prop :=
  ∀ ls, (∃ a rest, p ansi ls = .ok (a, rest) ∧ post a ∧ rest ⊆ ls) ∨
    ∃ stop, p ansi ls = .error stop ∧ stop.failure ≠ .tooDeep

namespace Mild

variable {α β : Type} {post : α → Prop} {post' : β → Prop}

lemma pure {a : α} (h : post a) : Mild (pure a) post :=
  fun ls => .inl ⟨a, ls, rfl, h, List.Subset.refl _⟩

lemma bind {p : Parser α} {f : α → Parser β} (h : Mild p post)
    (hf : ∀ a, post a → Mild (f a) post') : Mild (p >>= f) post' := by
  intro ls
  rcases h ls with ⟨a, rest, ha, hpost, hrest⟩ | ⟨stop, hstop, hdeep⟩
  · rcases hf a hpost rest with ⟨b, rest', hb, hpost', hrest'⟩ | ⟨stop, hstop, hdeep⟩
    · exact .inl ⟨b, rest', by simp only [run_bind, ha, hb], hpost', fun _ hl => hrest (hrest' hl)⟩
    · exact .inr ⟨stop, by simp only [run_bind, ha, hstop], hdeep⟩
  · exact .inr ⟨stop, by simp only [run_bind, hstop], hdeep⟩

lemma ite {b : Prop} [Decidable b] {p q : Parser α} (hp : Mild p post) (hq : Mild q post) :
    Mild (if b then p else q) post := by
  split
  · exact hp
  · exact hq

lemma expected {wanted : String} {got : Located} : Mild (expected wanted got) post :=
  fun ls => .inr ⟨_, run_expected wanted got, by simp⟩

lemma peek : Mild peek fun _ => True :=
  fun ls => .inl ⟨_, ls, run_peek, trivial, List.Subset.refl _⟩

lemma next : Mild next fun _ => True :=
  fun ls => .inl ⟨_, ls.tail, run_next, trivial, fun _ => List.mem_of_mem_tail⟩

lemma sign (spelling : String) : Mild (sign spelling) fun _ => True := by
  intro ls
  rw [run_sign]
  split
  · exact .inl ⟨_, _, rfl, trivial, fun _ => List.mem_of_mem_tail⟩
  · exact .inl ⟨_, _, rfl, trivial, List.Subset.refl _⟩

lemma expectSign (spelling : String) : Mild (expectSign spelling) fun _ => True :=
  (sign spelling).bind fun _ _ => .ite (.pure trivial) (peek.bind fun _ _ => expected)

lemma steps {step : α → Parser (Option α)} (h : ∀ a, Mild (step a) fun _ => True) (limit : Nat)
    (a : α) : Mild (Parser.steps step limit a) fun _ => True := by
  induction limit generalizing a with
  | zero => exact .pure trivial
  | succ limit ih =>
    refine (h a).bind fun more _ => ?_
    cases more with
    | none => exact .pure trivial
    | some a => exact ih a

lemma repeatedly {step : α → Parser (Option α)} (h : ∀ a, Mild (step a) fun _ => True) (a : α) :
    Mild (Parser.repeatedly step a) fun _ => True := by
  have hremaining : Mild remaining fun _ => True :=
    fun ls => .inl ⟨_, ls, run_remaining, trivial, List.Subset.refl _⟩
  exact hremaining.bind fun _ _ => steps h _ a

lemma many {more : Parser Bool} {p : Parser α} (hmore : Mild more fun _ => True)
    (hp : Mild p fun _ => True) : Mild (Parser.many more p) fun _ => True := by
  refine (repeatedly (fun found => ?_) _).bind fun _ _ => .pure trivial
  exact hmore.bind fun _ _ => .ite (hp.bind fun _ _ => .pure trivial) (.pure trivial)

end Mild

lemma identifier_mild : Mild identifier fun _ => True := by
  refine Mild.next.bind fun t _ => ?_
  split
  · exact .pure trivial
  · exact .pure trivial
  · exact .pure trivial
  · exact .expected

lemma typeModifier_mild (found : List String) : Mild (typeModifier found) fun _ => True := by
  refine Mild.peek.bind fun t _ => ?_
  split
  · exact .pure trivial
  · refine Mild.next.bind fun t _ => ?_
    split
    · exact .pure trivial
    · exact .pure trivial
    · exact .pure trivial
    · exact .pure trivial
    · exact .expected

/-- A type that the grammar does not know stays one. -/
lemma unknownType_mild : Mild unknownType fun type => ∃ text, type = .unknown text := by
  have hname : Mild objectNameText fun _ => True := by
    have hobject : Mild objectName fun _ => True :=
      identifier_mild.bind fun _ _ =>
        (Mild.many (.sign ".") identifier_mild).bind fun _ _ => .pure trivial
    exact hobject.bind fun _ _ => .pure trivial
  refine hname.bind fun name _ => (Mild.sign "(").bind fun opened _ => ?_
  refine .ite ?_ (.pure ⟨_, rfl⟩)
  refine (Mild.repeatedly typeModifier_mild []).bind fun modifiers _ => ?_
  exact (Mild.expectSign ")").bind fun _ _ => .ite (.pure ⟨_, rfl⟩) (.pure ⟨_, rfl⟩)

/-- The words that begin types which the grammar knows. -/
def typeWords : List String :=
  plainTypes.map Prod.fst ++ sizedTypes ++ exactTypes ++ integerTypes ++
    ["VARCHAR", "NVARCHAR", "CHARACTER", "CHAR", "BIT", "DOUBLE", "TIMESTAMP", "TIME",
     "TIMESTAMPTZ", "TIMETZ", "INTERVAL", "ENUM", "ENUM8", "ENUM16", "SET", "DATETIME64",
     "FIXEDSTRING", "ARRAY", "STRUCT", "UNION", "NULLABLE", "LOWCARDINALITY", "MAP", "NESTED",
     "TUPLE"]

lemma flatType_none {word : String} (h : word ∉ typeWords) : flatType word = pure none := by
  simp only [typeWords, List.mem_append, not_or] at h
  obtain ⟨⟨⟨⟨hplain, hsized⟩, hexact⟩, hinteger⟩, hmore⟩ := h
  have hlookup : plainTypes.lookup word = none := by
    rw [List.lookup_eq_none_iff]
    intro entry hentry
    simp only [bne_iff_ne, ne_eq]
    rintro rfl
    exact hplain (List.mem_map_of_mem hentry)
  unfold flatType
  rw [hlookup]
  simp only [List.contains_eq_mem, hsized, hexact, hinteger, decide_false, Bool.false_eq_true,
    if_false]
  split <;> simp_all

lemma composedType_none {word : String} (h : word ∉ typeWords) (inner : Inner)
    (type : Parser Bracketed) (place : Location) (ls : List Located) :
    composedType inner type place word ansi ls = .ok (none, ls) := by
  simp only [typeWords, List.mem_append, not_or] at h
  unfold composedType
  rw [if_neg (by simp_all)]
  simp only [run_bind, run_dialectIn, show ansi.dialect.isOneOf [.ansi] = true from rfl, if_true]
  split
  all_goals first
    | rfl
    | simp at h

/-! ### Literals of a type -/

/-- Nothing that a type may be made of comes before a bracket. -/
def NoBracket (ls : List Located) : Prop :=
  ∀ l ∈ ls, l.token ≠ .sign "["

lemma arraySuffix_none {ls : List Located} (h : (front ls).token ≠ .sign "[") (type : TypeName) :
    repeatedly arraySuffix type ansi ls = .ok (type, ls) := by
  refine run_repeatedly_of_none ?_
  simp only [arraySuffix, run_bind, run_sign, if_neg h]
  rfl

lemma NoBracket.front {ls : List Located} (h : NoBracket ls) : (front ls).token ≠ .sign "[" := by
  cases ls with
  | nil => simp [Parser.front, finish]
  | cons l ls => exact h l (by simp)

/-- Whether a token is a string or a word that may stand for one. -/
def isStringLike : Token → Bool
  | .string _ _ => true
  | token => isFreeWord token

lemma literalString_error {ls : List Located} (h : AfterName ls) :
    ∃ stop, literalString ansi ls = .error stop ∧ stop.failure ≠ .tooDeep := by
  have hnot : ∀ t ∈ .sign "." :: followers, isStringLike t = false := by decide +kernel
  have hfront := hnot _ h
  simp only [literalString, run_bind, run_next, run_dialectIn]
  generalize front ls = t at hfront
  obtain ⟨token, place⟩ := t
  cases token with
  | string kind value => simp [isStringLike] at hfront
  | word value quote =>
    have hfree : isFreeWord (.word value quote) = false := hfront
    simp only [hfree, Bool.false_eq_true, if_false]
    exact ⟨_, run_expected _ _, by simp⟩
  | _ => exact ⟨_, run_expected _ _, by simp⟩

section Words

variable {inner : Inner} {l : Located} {ls : List Located}

/-- The word begins no type that the grammar knows, or a name ends with it and it begins none that
contains others. -/
def BeginsNoType (l : Located) (ls : List Located) : Prop :=
  (l.token.keyword?).getD "" ∉ typeWords ∨
    AfterName ls ∧ (l.token.keyword?).getD "" ∉ ["ARRAY", "STRUCT", "INTERVAL"]

/-- The type that a word begins, if the grammar knows it. -/
def knownType (inner : Inner) (type : Parser Bracketed) (place : Location) (word : String) :
    Parser (Option Bracketed) :=
  lookFor (do
    let _ ← next
    match ← composedType inner type place word with
    | some type => return some type
    | none => return (← flatType word).map fun type => (type, false))

/-- A word is looked up among the types. -/
lemma knownType_cases (inner : Inner) (h : BeginsNoType l ls) (type : Parser Bracketed)
    (place : Location) :
    let found := knownType inner type place ((l.token.keyword?).getD "")
    found ansi (l :: ls) = .ok (none, l :: ls) ∨
      (∃ known, found ansi (l :: ls) = .ok (some (known, false), ls) ∧ known ≠ .interval ∧
        AfterName ls) ∨
      ∃ stop, found ansi (l :: ls) = .error stop ∧ stop.failure ≠ .tooDeep := by
  intro found
  rcases h with hword | ⟨hafter, hword⟩
  · left
    simp only [found, knownType, lookFor, run_bind, run_next, List.tail_cons, composedType_none hword,
      flatType_none hword, run_pure]
    rfl
  · simp only [List.mem_cons, List.not_mem_nil, or_false, not_or] at hword
    rcases composedType_quiet hafter inner type place hword.1 hword.2.1 with
      ⟨_, hcomposed, rfl⟩ | ⟨stop, hstop, hdeep⟩
    · rcases flatType_quiet hafter hword.2.2 with ⟨flat, hflat, hinterval⟩ | ⟨stop, hstop, hdeep⟩
      · cases flat with
        | none =>
          left
          simp only [found, knownType, lookFor, run_bind, run_next, List.tail_cons, hcomposed, hflat, run_pure]
          rfl
        | some known =>
          refine .inr (.inl ⟨known, ?_, fun h => hinterval (by rw [h]), hafter⟩)
          simp only [found, knownType, lookFor, run_bind, run_next, List.tail_cons, hcomposed, hflat, run_pure]
          rfl
      · refine .inr (.inr ⟨stop, ?_, hdeep⟩)
        simp only [found, knownType, lookFor, run_bind, run_next, List.tail_cons, hcomposed, hstop]
    · refine .inr (.inr ⟨stop, ?_, hdeep⟩)
      simp only [found, knownType, lookFor, run_bind, run_next, List.tail_cons, hstop]

/-- The type that was found with its suffixes, or else one that is not known. -/
def afterKnown : Option Bracketed → Parser Bracketed
  | some (type, closesOuter) => do return (← repeatedly arraySuffix type, closesOuter)
  | none => do return (← repeatedly arraySuffix (← unknownType), false)

/-- What a word is as a type: none that is known, or one that ends before `ls`. -/
lemma typeWithin_word (inner : Inner) (depth : Nat) {value : String} {quote : Option Char}
    (hl : l.token = .word value quote) (hbracket : NoBracket (l :: ls)) (h : BeginsNoType l ls) :
    (∃ text rest, typeWithin inner (depth + 1) ansi (l :: ls) =
        .ok ((.unknown text, false), rest)) ∨
      (∃ known, typeWithin inner (depth + 1) ansi (l :: ls) = .ok ((known, false), ls) ∧
        known ≠ .interval ∧ AfterName ls) ∨
      ∃ stop, typeWithin inner (depth + 1) ansi (l :: ls) = .error stop ∧
        stop.failure ≠ .tooDeep := by
  have hstage : typeWithin inner (depth + 1) ansi (l :: ls) =
      (do
        afterKnown
          (← knownType inner (typeWithin inner depth) l.place ((l.token.keyword?).getD "")))
        ansi (l :: ls) := by
    simp only [typeWithin, run_bind, run_peek, front_cons, hl]
    rfl
  rw [hstage]
  rcases knownType_cases inner h (typeWithin inner depth) l.place with
    hnone | ⟨known, hknown, hinterval, hafter⟩ | ⟨stop, hstop, hdeep⟩
  · simp only [run_bind, hnone, afterKnown]
    rcases unknownType_mild (l :: ls) with
      ⟨type, rest, htype, ⟨text, rfl⟩, hsubset⟩ | ⟨stop, hstop, hdeep⟩
    · have hrest : NoBracket rest := fun l hl => hbracket l (hsubset hl)
      exact .inl ⟨text, rest, by simp only [htype, arraySuffix_none hrest.front, run_pure]⟩
    · exact .inr (.inr ⟨stop, by simp only [hstop], hdeep⟩)
  · have hls : NoBracket ls := fun l hl => hbracket l (List.mem_cons_of_mem _ hl)
    refine .inr (.inl ⟨known, ?_, hinterval, hafter⟩)
    simp only [run_bind, hknown, afterKnown, arraySuffix_none hls.front, run_pure]
  · exact .inr (.inr ⟨stop, by simp only [run_bind, hstop], hdeep⟩)

/-- **No literal.** A word that is no type, or that a comma or an operator follows, begins no
literal of a type. -/
lemma typedLiteral_none {operand : Parser Term} {value : String} {quote : Option Char}
    (hl : l.token = .word value quote) (hbracket : NoBracket (l :: ls)) (h : BeginsNoType l ls) :
    maybe (typedLiteral inner operand) ansi (l :: ls) = .ok (none, l :: ls) := by
  have herror : ∃ stop, typedLiteral inner operand ansi (l :: ls) = .error stop ∧
      stop.failure ≠ .tooDeep := by
    simp only [typedLiteral, dataType, balanced, run_bind, run_remaining]
    rcases typeWithin_word inner (l :: ls).length hl hbracket h with
      ⟨text, rest, heq⟩ | ⟨type, heq, hinterval, hafter⟩ | ⟨stop, heq, hdeep⟩
    · simp only [heq, Bool.false_eq_true, if_false, run_pure]
      exact ⟨_, run_fail _, by simp⟩
    · simp only [heq, Bool.false_eq_true, if_false, run_pure]
      cases type with
      | interval => exact absurd rfl hinterval
      | unknown text => exact ⟨_, run_fail _, by simp⟩
      | known text =>
        obtain ⟨stop, hstop, hdeep⟩ := literalString_error hafter
        exact ⟨stop, by simp only [run_bind, hstop], hdeep⟩
    · exact ⟨stop, by simp only [heq], hdeep⟩
  obtain ⟨stop, hstop, hdeep⟩ := herror
  exact run_maybe_of_error hstop hdeep

/-- What is no word begins no literal of a type. -/
lemma typedLiteral_none_of_sign {operand : Parser Term}
    (hl : ∀ value quote, l.token ≠ .word value quote) :
    maybe (typedLiteral inner operand) ansi (l :: ls) = .ok (none, l :: ls) := by
  have htype : typeWithin inner ((l :: ls).length + 1) ansi (l :: ls) =
      .error ⟨.unexpected "a data type name" l.token.text l.place, ls⟩ := by
    obtain ⟨token, place⟩ := l
    cases token with
    | word value quote => exact absurd rfl (hl value quote)
    | _ => rfl
  have herror : typedLiteral inner operand ansi (l :: ls) =
      .error ⟨.unexpected "a data type name" l.token.text l.place, ls⟩ := by
    simp only [typedLiteral, dataType, balanced, run_bind, run_remaining, htype]
  exact run_maybe_of_error herror (by simp)

end Words

end SelectBinding.Sql.Grammar
