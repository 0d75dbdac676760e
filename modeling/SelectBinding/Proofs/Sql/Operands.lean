import SelectBinding.Proofs.Sql.Calls

/-!
Operands are read as they are derived.
-/

namespace SelectBinding.Sql.Grammar

open Sql.Parser Sql.Reading

/-! ### Words -/

section Words

variable {inner : Inner} {operand : Parser Term} {ls : List Located}

lemma Quiet.map_false {α β : Type} {p : Parser α} {f : α → β} {post : β → Prop}
    (h : Quiet p ls fun _ => False) : Quiet (f <$> p) ls post := by
  rw [← bind_pure_comp]
  exact h.bind fun _ hfalse => hfalse.elim

/-- **Forms.** A word before an operator or a comma begins no form of its own, but for those that
need nothing after them. -/
lemma keywordForm_quiet (h : AfterName ls) (t : Located) {word : String} (name : Ident)
    (hword : word ∉ nameForms) :
    Quiet (keywordForm inner operand t word name) ls (· = none) := by
  have hform (name : String) (inside : Parser String) :
      Quiet (form name inside) ls fun _ => False :=
    (h.parenthesized inside fun _ => False).bind fun _ hfalse => hfalse.elim
  have hansi : Quiet dialect ls (· = .ansi) := .of_eq rfl rfl
  have hopen : Quiet (peekSign "(") ls (· = false) :=
    .of_eq (run_peekSign _) (by simpa using h.not_open)
  refine hansi.bind fun found hfound => hopen.bind fun opened hopened => ?_
  subst hfound hopened
  split
  all_goals try exact absurd (by decide) hword
  · exact (hform _ _).map_false
  · exact (hform _ _).map_false
  · exact (hform _ _).map_false
  · exact (hform _ _).map_false
  · exact (hform _ _).map_false
  · exact (hform _ _).map_false
  · exact (hform _ _).map_false
  · exact (hform _ _).map_false
  · exact .pure rfl
  · exact (hform _ _).map_false
  · exact (hform _ _).map_false
  · have hnames : Quiet columnNames ls fun _ => False := by
      have hsign : Quiet (Parser.sign "(") ls (· = false) := .of_eq (h.sign "(" (by decide) ansi) rfl
      refine hsign.bind fun opened hopened => ?_
      subst hopened
      exact .of_error (run_bind _ _) (by simp)
    have htexts : Quiet columnNameTexts ls fun _ => False :=
      hnames.bind fun _ hfalse => hfalse.elim
    have hmatch : Quiet matchForm ls fun _ => False := htexts.bind fun _ hfalse => hfalse.elim
    exact hmatch.map_false
  · have hprior : Quiet isHierarchical ls (· = false) := .of_eq rfl rfl
    refine hprior.bind fun found hfound => ?_
    subst hfound
    exact .pure rfl
  · have hbrace : Quiet (peekSign "\x7b") ls (· = false) := by
      have hne : ∀ t ∈ .sign "." :: followers, (t == .sign "\x7b") = false := by decide
      exact .of_eq (run_peekSign _) (hne _ h)
    refine hbrace.bind fun found hfound => ?_
    subst hfound
    exact .pure rfl
  · exact .pure rfl

/-- A name that no form begins with is read in front of what may follow a name. -/
lemma bareWordOperand_name (h : AfterName ls) {l : Located} {word : String} {name : Ident}
    {t : Term} {rest : List Located} (hword : word ∉ nameForms) (hstay : word ∉ stayKeywords)
    (hplain : plainWord inner name ansi ls = .ok (t, rest)) :
    ∃ collatable, bareWordOperand inner operand l word name ansi ls = .ok ((t, collatable), rest) := by
  have hquiet : Quiet (keywordForm inner operand l word name) ls (· = none) :=
    keywordForm_quiet h l name hword
  rcases hquiet with ⟨_, hform, rfl⟩ | ⟨stop, hstop, -⟩
  · refine ⟨true, ?_⟩
    simp only [bareWordOperand, run_bind, attempt, hform, hplain, run_pure]
  · refine ⟨false, ?_⟩
    simp only [bareWordOperand, run_bind, attempt, hstop, List.contains_eq_mem, hstay,
      decide_false, Bool.false_eq_true, if_false, hplain, run_pure]

lemma keywordForm_none (t : Located) {word : String} (name : Ident) (hword : word ∉ callForms) :
    keywordForm inner operand t word name ansi ls = .ok (none, ls) := by
  simp only [keywordForm, run_bind, run_dialect, run_peekSign]
  split
  all_goals first
    | exact absurd (by decide) hword
    | rfl

/-- A word that begins a call is a name. -/
lemma bareWordOperand_call {l : Located} {word : String} {name : Ident} {t : Term}
    {rest : List Located} (hword : word ∉ callForms)
    (hplain : plainWord inner name ansi ls = .ok (t, rest)) :
    bareWordOperand inner operand l word name ansi ls = .ok ((t, true), rest) := by
  simp only [bareWordOperand, run_bind, attempt, keywordForm_none l name hword, hplain, run_pure]

/-- An operand that begins with a word is no literal of a type. -/
lemma operandStart_word {l : Located} {value : String} {quote : Option Char}
    (hl : l.token = .word value quote) (hbracket : NoBracket (l :: ls)) (h : BeginsNoType l ls) :
    operandStart inner operand ansi (l :: ls) =
      match l.token.keyword? with
      | some word => bareWordOperand inner operand l word (wordIdent value quote l.place) ansi ls
      | none =>
        match plainWord inner (wordIdent value quote l.place) ansi ls with
        | .ok (t, rest) => .ok ((t, true), rest)
        | .error stop => .error stop := by
  simp only [operandStart, run_bind, typedLiteral_none hl hbracket h, run_peek, front_cons, hl,
    run_next, List.tail_cons]
  cases (Token.word value quote).keyword? with
  | none =>
    simp only [run_bind, run_pure]
    cases plainWord inner (wordIdent value quote l.place) ansi ls <;> rfl
  | some word => rfl

end Words

/-! ### Operands without signs -/

section Primary

variable {r : Reading} {inner : Inner} {operand : Parser Term} {level : Level}

/-- A word that is a literal is read as one. -/
lemma operandStart_literal {l : Located} {ls : List Located} {word : String} {literal : Literal}
    (hl : l.token = kw word) (hbracket : NoBracket (l :: ls))
    (htype : Token.capitalized word ∉ typeWords)
    (hform : ∀ t name, keywordForm inner operand t (Token.capitalized word) name ansi ls =
      .ok (some (.literal literal), ls)) :
    operandStart inner operand ansi (l :: ls) = .ok ((.literal literal, true), ls) := by
  have hkeyword : l.token.keyword? = some (Token.capitalized word) := by rw [hl]; rfl
  rw [operandStart_word hl hbracket (.inl (by simpa [hkeyword] using htype)), hkeyword]
  simp only [bareWordOperand, run_bind, attempt, hform, run_pure]

lemma operandStart_number {l : Located} {ls : List Located} {spelling : String}
    (hl : l.token = .number spelling false) :
    operandStart inner operand ansi (l :: ls) =
      .ok ((.literal (.number spelling false), true), ls) := by
  have hsigns : ∀ value quote, l.token ≠ .word value quote := by simp [hl]
  simp only [operandStart, run_bind, typedLiteral_none_of_sign hsigns, run_peek, front_cons, hl,
    literal, run_next, List.tail_cons, run_dialectIn, run_pure]

/-- A name is read by its parts. -/
lemma IsPath.plainWord (inner : Inner) {t : Token} {ts : List Token} {parts : List String}
    (h : IsPath r.reserved (t :: ts) parts) {ls rest : List Located} {next : Nat}
    (hls : ls.map Located.token = ts) (hrest : Before next rest) (place : Location) :
    ∃ value quote, t = .word value quote ∧ IsPart r.reserved t value ∧ AfterName (ls ++ rest) ∧
      ∃ idents, plainWord inner (wordIdent value quote place) ansi (ls ++ rest) =
        .ok (nameTerm idents, rest) ∧ List.Forall₂ r.Names idents parts := by
  cases h with
  | @last _ value hpart =>
    obtain ⟨quote, rfl⟩ := hpart.eq_word
    obtain rfl : ls = [] := by simpa using hls
    exact ⟨value, quote, rfl, hpart, hrest.afterName, _, plainWord_name hrest.follower,
      .cons hpart.names .nil⟩
  | @more _ ts value parts hpart hmore =>
    obtain ⟨quote, rfl⟩ := hpart.eq_word
    obtain ⟨dot, ls, rfl, hdot, hls⟩ := List.map_eq_cons_iff.mp hls
    exact ⟨value, quote, rfl, hpart, by simp [AfterName, hdot],
      plainWord_path hpart.names hmore hdot hls hrest.follower⟩

/-- A name is read. -/
lemma operandStart_name (hreserved : r.reserved.IsComplete) {t : Token} {ts : List Token}
    {parts : List String} (h : IsPath r.reserved (t :: ts) parts)
    (hform : t.isOneOf nameForms = false) {l : Located} {ls rest : List Located} {next : Nat}
    (hl : l.token = t) (hls : ls.map Located.token = ts) (hbracket : NoBracket (l :: (ls ++ rest)))
    (hrest : Before next rest) :
    ∃ idents collatable, operandStart inner operand ansi (l :: (ls ++ rest)) =
      .ok ((nameTerm idents, collatable), rest) ∧ List.Forall₂ r.Names idents parts := by
  obtain ⟨value, quote, rfl, hpart, hafter, idents, hplain, hnames⟩ :=
    h.plainWord inner hls hrest l.place
  have hword := hpart.not_quotedWord hreserved
  cases hpart with
  | quoted =>
    have hkeyword : l.token.keyword? = none := by rw [hl]; rfl
    refine ⟨idents, true, ?_, hnames⟩
    rw [operandStart_word hl hbracket (.inl (by rw [hkeyword]; decide)), hkeyword]
    simp only [hplain]
  | bare =>
    have hkeyword : l.token.keyword? = some (Token.capitalized value) := by rw [hl]; rfl
    have hnot : Token.capitalized value ∉ nameForms := by
      simpa [Token.isOneOf, Token.keyword?] using hform
    have hstay : Token.capitalized value ∉ stayKeywords := by
      have hquoted : Token.capitalized value ∉ quotedWords := by
        simpa [Token.isOneOf, Token.keyword?] using hword
      exact fun h => hquoted (List.mem_append_right _ h)
    have htype : BeginsNoType l (ls ++ rest) := by
      refine .inr ⟨hafter, ?_⟩
      rw [hkeyword]
      have hsub : ∀ word ∈ ["ARRAY", "STRUCT", "INTERVAL"], word ∈ nameForms := by decide
      exact fun h => hnot (hsub _ h)
    rw [operandStart_word hl hbracket htype, hkeyword]
    obtain ⟨collatable, hread⟩ := bareWordOperand_name hafter hnot hstay hplain
    exact ⟨idents, collatable, hread, hnames⟩

/-- A call is read by the parts of its name. -/
lemma operandStart_parts (operand : Parser Term) {name : String} {idents : List Ident}
    {l opening : Located} {parts ls rest : List Located} {args : List Argument} {next : Nat}
    (hform : Token.isOneOf callForms (.word name none) = false) (hl : l.token = .word name none)
    (hparts : Pointed idents parts) (hopen : opening.token = .sign "(")
    (hbracket : NoBracket (l :: (parts ++ opening :: ls)))
    (hlist : argumentList inner ansi ls = .ok ({ args }, rest)) (hrest : Before next rest) :
    operandStart inner operand ansi (l :: (parts ++ opening :: ls)) =
      .ok ((.call (wordIdent name none l.place :: idents) {} args, true), rest) := by
  have hkeyword : l.token.keyword? = some (Token.capitalized name) := by rw [hl]; rfl
  have hnot : Token.capitalized name ∉ callForms := by
    simpa [Token.isOneOf, Token.keyword?] using hform
  have htype : BeginsNoType l (parts ++ opening :: ls) := by
    rw [BeginsNoType, hkeyword]
    exact .inl fun h => hnot (List.mem_append_right _ h)
  rw [operandStart_word hl hbracket htype, hkeyword]
  refine bareWordOperand_call hnot ?_
  rw [plainWord_call hparts hopen, callAfter_of hopen hlist hrest]

/-- A call is read. -/
lemma operandStart_call {name : String} (hname : IsPart r.reserved (.word name none) name)
    (hform : Token.isOneOf callForms (.word name none) = false) {l opening : Located}
    {ls rest : List Located} {args : List Argument} {es : List Expr} {next : Nat}
    (hl : l.token = .word name none) (hopen : opening.token = .sign "(")
    (hbracket : NoBracket (l :: opening :: ls))
    (hlist : argumentList inner ansi ls = .ok ({ args }, rest)) (hrest : Before next rest)
    (hargs : List.Forall₂ r.LowersArgument args es) :
    ∃ term collatable, operandStart inner operand ansi (l :: opening :: ls) =
      .ok ((term, collatable), rest) ∧ r.Lowers term (.call (callKind name) name es) := by
  have hread := operandStart_parts operand hform hl .nil hopen hbracket hlist hrest
  rw [List.nil_append] at hread
  have hnames : List.Forall₂ r.Names [wordIdent name none l.place] [name] :=
    .cons hname.names .nil
  exact ⟨_, true, hread,
    by simpa [Name.dotted] using lowers_call hnames (lowersArguments_of_forall hargs)⟩

/-- What parentheses hold is read. -/
lemma operandStart_nested (hin : ReadsInside r inner level) {ts : List Token} {e : Expr}
    (h : level 0 0 ts e) {opening close : Located} {ls rest : List Located} {next : Nat}
    (hopen : opening.token = .sign "(") (hclose : close.token = .sign ")")
    (hls : ls.map Located.token = ts) (htidy : Tidy (ls ++ close :: rest))
    (hrest : Before next rest) :
    ∃ term collatable, operandStart inner operand ansi (opening :: (ls ++ close :: rest)) =
      .ok ((term, collatable), rest) ∧ r.Lowers term e := by
  have hbefore : Before 0 (close :: rest) :=
    before_of_closer (by simp [hclose, closers]) htidy.right
  obtain ⟨term, hread, hlowers⟩ := hin.reads h hls htidy.left hbefore
  have hquery : queryAhead ansi (ls ++ close :: rest) = .ok (false, ls ++ close :: rest) := by
    obtain ⟨t, ts, rfl, hfirst, -⟩ := hin.begins h
    obtain ⟨l, ls, rfl, rfl, -⟩ := List.map_eq_cons_iff.mp hls
    have hnot : l.token.isOneOf ["SELECT", "WITH"] = false := isOneOf_of_subset hfirst (by decide)
    simp only [queryAhead, run_bind, run_peek, List.cons_append, front_cons, hnot, run_pure]
  have hterms : commaSeparated inner.term ansi (ls ++ close :: rest) =
      .ok ([term], close :: rest) := by
    refine run_commaSeparated hread (.done ?_)
    simp [run_sign, hclose]
  have hsigns : ∀ value quote, opening.token ≠ .word value quote := by simp [hopen]
  refine ⟨.nested term, true, ?_, hlowers.nested⟩
  simp only [operandStart, run_bind, typedLiteral_none_of_sign hsigns, run_peek, front_cons, hopen,
    run_next, List.tail_cons, signOperand, run_dialectIn, parenthesesOperand, hquery,
    Bool.false_eq_true, if_false, hterms, run_pure, run_expectSign, hclose, if_true,
    hrest.sign "." (by decide)]

/-- **Operands without signs.** What is derived is read. -/
lemma IsPrimary.read (hreserved : r.reserved.IsComplete) (hin : ReadsInside r inner level)
    {ts : List Token} {e : Expr} (h : IsPrimary r.reserved level ts e) {ls rest : List Located}
    {next : Nat} (hls : ls.map Located.token = ts) (htidy : Tidy ls) (hrest : Before next rest) :
    ∃ term collatable, operandStart inner operand ansi (ls ++ rest) =
      .ok ((term, collatable), rest) ∧ r.Lowers term e := by
  have htidy := htidy.append hrest.tidy
  have hword (word : String) (literal : Literal) (value : Constant)
      (hls : ls.map Located.token = [kw word]) (htype : Token.capitalized word ∉ typeWords)
      (hform : ∀ t name ls, keywordForm inner operand t (Token.capitalized word) name ansi ls =
        .ok (some (.literal literal), ls)) (hvalue : constant literal = .ok value) :
      ∃ term collatable, operandStart inner operand ansi (ls ++ rest) =
        .ok ((term, collatable), rest) ∧ r.Lowers term (.const value) := by
    obtain ⟨l, rfl, hl⟩ := List.map_eq_singleton_iff.mp hls
    exact ⟨.literal literal, true,
      operandStart_literal hl htidy.noBracket htype fun t name => hform t name rest,
      lowers_literal hvalue⟩
  cases h with
  | null => exact hword "NULL" .null .null hls (by decide) (fun _ _ _ => rfl) rfl
  | yes => exact hword "TRUE" (.boolean true) _ hls (by decide) (fun _ _ _ => rfl) rfl
  | no => exact hword "FALSE" (.boolean false) _ hls (by decide) (fun _ _ _ => rfl) rfl
  | @number spelling value h =>
    obtain ⟨l, rfl, hl⟩ := List.map_eq_singleton_iff.mp hls
    exact ⟨.literal (.number spelling false), true, operandStart_number hl, lowers_literal h⟩
  | text value =>
    obtain ⟨l, rfl, hl⟩ := List.map_eq_singleton_iff.mp hls
    have hsigns : ∀ value quote, l.token ≠ .word value quote := by simp [hl]
    refine ⟨.literal (.text value), true, ?_, lowers_literal rfl⟩
    simp only [operandStart, run_bind, List.singleton_append, typedLiteral_none_of_sign hsigns,
      run_peek, front_cons, hl, literal, run_next, List.tail_cons, run_dialectIn, run_pure]
    rfl
  | name h hform =>
    obtain ⟨l, ls, rfl, hl, hls⟩ := List.map_eq_cons_iff.mp hls
    obtain ⟨idents, collatable, hread, hnames⟩ :=
      operandStart_name hreserved h hform hl hls htidy.noBracket hrest
    exact ⟨_, collatable, hread, lowers_nameTerm hnames⟩
  | emptyCall hname hform =>
    obtain ⟨l, more, rfl, hl, hmore⟩ := List.map_eq_cons_iff.mp hls
    obtain ⟨opening, more, rfl, hopen, hmore⟩ := List.map_eq_cons_iff.mp hmore
    obtain ⟨close, rfl, hclose⟩ := List.map_eq_singleton_iff.mp hmore
    exact operandStart_call hname hform hl hopen htidy.noBracket
      (argumentList_nil hclose htidy.tail.tail) hrest .nil
  | call hname hform h =>
    obtain ⟨l, more, rfl, hl, hmore⟩ := List.map_eq_cons_iff.mp hls
    obtain ⟨opening, more, rfl, hopen, hmore⟩ := List.map_eq_cons_iff.mp hmore
    obtain ⟨ls, closing, rfl, hargs, hclosing⟩ := List.map_eq_append_iff.mp hmore
    obtain ⟨close, rfl, hclose⟩ := List.map_eq_singleton_iff.mp hclosing
    rw [List.cons_append, List.cons_append, List.append_assoc] at htidy ⊢
    obtain ⟨args, hread, hlowers⟩ :=
      argumentList_read hreserved hin (.inr h) hargs hclose htidy.tail.tail
    exact operandStart_call hname hform hl hopen htidy.noBracket hread hrest hlowers
  | nested h =>
    obtain ⟨opening, more, rfl, hopen, hmore⟩ := List.map_eq_cons_iff.mp hls
    obtain ⟨ls, closing, rfl, hinside, hclosing⟩ := List.map_eq_append_iff.mp hmore
    obtain ⟨close, rfl, hclose⟩ := List.map_eq_singleton_iff.mp hclosing
    rw [List.cons_append, List.append_assoc] at htidy ⊢
    exact operandStart_nested hin h hopen hclose hinside htidy.tail hrest

end Primary

/-! ### Operands -/

section Operand

variable {r : Reading} {inner : Inner} {level : Level}

/-- A term after a sign is read. -/
lemma operandStart_signed {operand : Parser Term} {spelling : String} {op : UnaryOperator}
    (hop : (spelling, op) ∈ [("+", UnaryOperator.plus), ("-", UnaryOperator.minus)])
    {sign : Located} {ls rest : List Located} {term : Term} (hsign : sign.token = .sign spelling)
    (hread : inner.termAbove signStrength ansi ls = .ok (term, rest)) :
    operandStart inner operand ansi (sign :: ls) = .ok ((.unary op term, true), rest) := by
  have hnotype : maybe (typedLiteral inner operand) ansi (sign :: ls) = .ok (none, sign :: ls) :=
    typedLiteral_none_of_sign (by simp [hsign])
  have hbinding : OperatorGroup.product.binding ansi.dialect = signStrength := rfl
  simp only [List.mem_cons, List.not_mem_nil, or_false, Prod.mk.injEq] at hop
  rcases hop with ⟨rfl, rfl⟩ | ⟨rfl, rfl⟩ <;>
    simp only [operandStart, run_bind, hnotype, run_peek, front_cons, hsign, run_next,
      List.tail_cons, signOperand, run_dialectIn, bindingOf, run_dialect, run_pure, hbinding, hread]

/-- A term after the word that negates it is read. -/
lemma operandStart_not {operand : Parser Term} {word : Located} {ls rest : List Located}
    {term : Term} (hword : word.token = kw "NOT") (hbracket : NoBracket (word :: ls))
    (hexists : (front ls).token.isKeyword "EXISTS" = false)
    (hread : inner.termAbove notStrength ansi ls = .ok (term, rest)) :
    operandStart inner operand ansi (word :: ls) = .ok ((.unary .not term, true), rest) := by
  have hkeyword : word.token.keyword? = some "NOT" := by rw [hword]; rfl
  have hbinding : OperatorGroup.not.binding ansi.dialect = notStrength := rfl
  rw [operandStart_word hword hbracket (.inl (by rw [hkeyword]; decide)), hkeyword]
  simp only [bareWordOperand, run_bind, attempt, keywordForm, run_dialect, run_peekSign,
    run_keyword, hexists, Bool.false_eq_true, if_false, bindingOf, run_pure, hbinding, hread]

/-- An operand is read without a collation. -/
lemma operand_of_start {ls rest : List Located} {term : Term} {collatable : Bool} {next : Nat}
    (h : operandStart inner (operandWithin inner ls.length) ansi ls =
      .ok ((term, collatable), rest)) (hrest : Before next rest) :
    operand inner ansi ls = .ok (term, rest) := by
  have hcollate := hrest.keyword "COLLATE" (by decide)
  simp only [operand, run_bind, run_remaining, operandWithin, h]
  cases collatable <;>
    simp only [run_bind, run_keyword, hcollate, Bool.false_eq_true, if_false, if_true, run_pure]

/-- **Operands.** What is derived is read. -/
lemma IsOperand.read (hreserved : r.reserved.IsComplete) (hin : ReadsInside r inner level)
    {ts : List Token} {e : Expr} {next : Nat} (h : IsOperand r.reserved level next ts e)
    {ls rest : List Located} (hls : ls.map Located.token = ts) (htidy : Tidy ls)
    (hrest : Before next rest) :
    ∃ term, operand inner ansi (ls ++ rest) = .ok (term, rest) ∧ r.Lowers term e := by
  have hstart (operand : Parser Term) : ∃ term collatable,
      operandStart inner operand ansi (ls ++ rest) = .ok ((term, collatable), rest) ∧
        r.Lowers term e := by
    cases h with
    | primary h => exact h.read hreserved hin hls htidy hrest
    | plus h =>
      obtain ⟨sign, ls, rfl, hsign, hls⟩ := List.map_eq_cons_iff.mp hls
      obtain ⟨term, hread, hlowers⟩ := hin.reads h hls htidy.tail hrest
      exact ⟨.unary .plus term, true, operandStart_signed (by decide) hsign hread,
        hlowers.unary rfl⟩
    | minus h =>
      obtain ⟨sign, ls, rfl, hsign, hls⟩ := List.map_eq_cons_iff.mp hls
      obtain ⟨term, hread, hlowers⟩ := hin.reads h hls htidy.tail hrest
      exact ⟨.unary .minus term, true, operandStart_signed (by decide) hsign hread,
        hlowers.unary rfl⟩
    | not h =>
      obtain ⟨word, ls, rfl, hword, hls⟩ := List.map_eq_cons_iff.mp hls
      obtain ⟨term, hread, hlowers⟩ := hin.reads h hls htidy.tail hrest
      have hexists : (front (ls ++ rest)).token.isKeyword "EXISTS" = false := by
        obtain ⟨t, ts, rfl, hfirst, -⟩ := hin.begins h
        obtain ⟨l, ls, rfl, rfl, -⟩ := List.map_eq_cons_iff.mp hls
        exact isKeyword_of_not_isOneOf hfirst (by decide)
      exact ⟨_, true, operandStart_not hword (htidy.append hrest.tidy).noBracket hexists hread,
        hlowers.unary rfl⟩
  obtain ⟨term, collatable, hread, hlowers⟩ := hstart (operandWithin inner (ls ++ rest).length)
  exact ⟨term, operand_of_start hread hrest, hlowers⟩

end Operand

end SelectBinding.Sql.Grammar
