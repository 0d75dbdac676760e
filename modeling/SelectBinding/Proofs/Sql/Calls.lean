import SelectBinding.Proofs.Sql.Beginnings
import SelectBinding.Proofs.Sql.Naming

/-!
Lists and calls are read as they are derived.
-/

namespace SelectBinding.Sql.Grammar

open Sql.Parser Sql.Reading

/-- The inner level reads what is derived inside, as terms that stand for it. -/
structure ReadsInside (r : Reading) (inner : Inner) (level : Level) : Prop where
  reads : ∀ {bound next : Nat} {ts : List Token} {e : Expr}, level bound next ts e →
    ∀ {ls rest : List Located}, ls.map Located.token = ts → Tidy ls → Before next rest →
      ∃ t, inner.termAbove bound ansi (ls ++ rest) = .ok (t, rest) ∧ r.Lowers t e
  begins : ∀ {bound next : Nat} {ts : List Token} {e : Expr}, level bound next ts e →
    ∃ t ts', ts = t :: ts' ∧ t.isOneOf notFirst = false ∧ t ∉ notFirstSigns
  noAsterisk : ∀ {bound next : Nat} {ts : List Token} {e : Expr}, level bound next ts e →
    ∀ {ls rest : List Located}, ls.map Located.token = ts → Before next rest →
      ∃ left, asterisk ansi (ls ++ rest) = .ok (none, left)

/-! ### Lists -/

/-- Things with commas between them are read one by one. -/
lemma Listed.read {α β : Type} {p : Parser β} {one : List Token → α → Prop} {R : β → α → Prop}
    {ends : List Token} (hends : .sign "," ∈ ends)
    (hone : ∀ (ts : List Token) (a : α), one ts a → ∀ ls rest : List Located,
      ls.map Located.token = ts → Tidy (ls ++ rest) → (front rest).token ∈ ends →
        ∃ b, p ansi (ls ++ rest) = .ok (b, rest) ∧ R b a)
    {ts : List Token} {as : List α} (h : Listed one ts as) {ls rest : List Located}
    (hls : ls.map Located.token = ts) (htidy : Tidy (ls ++ rest))
    (hrest : (front rest).token ∈ ends) (hcomma : (front rest).token ≠ .sign ",") :
    ∃ bs, commaSeparated p ansi (ls ++ rest) = .ok (bs, rest) ∧ List.Forall₂ R bs as := by
  have hmany : ∃ b bs ls', p ansi (ls ++ rest) = .ok (b, ls') ∧
      RunsMany ansi (sign ",") p ls' bs rest ∧ List.Forall₂ R (b :: bs) as ∧
      ls'.length ≤ (ls ++ rest).length := by
    induction h generalizing ls with
    | last hfirst =>
      obtain ⟨b, hread, hb⟩ := hone _ _ hfirst _ _ hls htidy hrest
      exact ⟨b, [], rest, hread, .done (by rw [run_sign, if_neg hcomma]), .cons hb .nil, by simp⟩
    | @more ts ts' a as hfirst _ ih =>
      obtain ⟨first, more, rfl, hfirstTokens, hmore⟩ := List.map_eq_append_iff.mp hls
      obtain ⟨comma, more, rfl, hsign, hmoreTokens⟩ := List.map_eq_cons_iff.mp hmore
      rw [List.append_assoc] at htidy ⊢
      have hclose : (front (comma :: more ++ rest)).token ∈ ends := by simpa [hsign] using hends
      obtain ⟨b, hread, hb⟩ := hone _ _ hfirst _ _ hfirstTokens htidy hclose
      obtain ⟨b', bs, ls', hread', hruns, hbs, hle⟩ := ih hmoreTokens htidy.right.tail
      have hsign : sign "," ansi (comma :: more ++ rest) = .ok (true, more ++ rest) := by
        rw [List.cons_append, run_sign, front_cons, if_pos hsign, List.tail_cons]
      refine ⟨b, b' :: bs, _, hread, .more hsign hread' ?_ hruns, .cons hb hbs, by simp⟩
      simp only [List.cons_append, List.length_cons]
      omega
  obtain ⟨b, bs, ls', hread, hruns, hbs, -⟩ := hmany
  exact ⟨b :: bs, run_commaSeparated hread hruns, hbs⟩

lemma Listed.first {α : Type} {one : List Token → α → Prop} {P : Token → Prop}
    (hone : ∀ ts a, one ts a → ∃ t ts', ts = t :: ts' ∧ P t)
    {ts : List Token} {as : List α} (h : Listed one ts as) : ∃ t ts', ts = t :: ts' ∧ P t := by
  cases h with
  | last h => exact hone _ _ h
  | more h _ =>
    obtain ⟨t, ts, rfl, ht⟩ := hone _ _ h
    exact ⟨t, _, rfl, ht⟩

/-! ### Arguments -/

section Arguments

variable {r : Reading} {inner : Inner} {level : Level}

lemma argumentSign_error {ls : List Located} (htidy : Tidy ls)
    (hvalue : (front ls).token.isKeyword "VALUE" = false) :
    ∃ stop, argumentSign ansi ls = .error stop ∧ stop.failure ≠ .tooDeep := by
  have hnot := htidy.front.1
  simp only [untidySigns, List.mem_cons, List.not_mem_nil, or_false, not_or] at hnot
  have hansi : ansi.dialect.isOneOf [.ansi] = true := rfl
  have hpostgres : ansi.dialect.isOneOf [.postgres] = false := rfl
  refine ⟨⟨.unexpected "argument operator" (front ls).token.text (front ls).place, ls⟩, ?_,
    by simp⟩
  simp only [argumentSign, run_bind, run_keyword, hvalue, Bool.false_eq_true, if_false, run_sign,
    if_neg hnot.2.1, run_onlyIn, hansi, if_true, if_neg hnot.2.2, hpostgres, run_peek,
    run_expected]

/-- An argument without a name is not read as one that has a name. -/
lemma namedArgument_none {ls : List Located} (htidy : Tidy ls)
    (hname : beginsNamed (ls.map Located.token) = false) :
    maybe (do namedArgument inner (← identifier).text) ansi ls = .ok (none, ls) := by
  have htail : Tidy ls.tail := fun l hl => htidy l (List.mem_of_mem_tail hl)
  have herror : ∃ stop, (do namedArgument inner (← identifier).text) ansi ls = .error stop ∧
      stop.failure ≠ .tooDeep := by
    by_cases hvalue : (front ls.tail).token.isKeyword "VALUE" = false
    · obtain ⟨stop, hstop, hdeep⟩ := argumentSign_error htail hvalue
      have hnamed (name : String) : namedArgument inner name ansi ls.tail = .error stop := by
        simp only [namedArgument, run_bind, hstop]
      simp only [run_bind, identifier, run_next]
      cases (front ls).token with
      | word value quote => exact ⟨stop, by simp only [run_pure, hnamed], hdeep⟩
      | string kind value =>
        cases kind with
        | plain => exact ⟨stop, by simp only [run_pure, hnamed], hdeep⟩
        | inDouble => exact ⟨stop, by simp only [run_pure, hnamed], hdeep⟩
        | _ => exact ⟨_, rfl, by simp⟩
      | _ => exact ⟨_, rfl, by simp⟩
    · -- Before the word `VALUE` there is a sign, which is no name.
      rcases ls with _ | ⟨⟨first, place⟩, _ | ⟨second, ls⟩⟩
      · exact absurd rfl hvalue
      · exact absurd rfl hvalue
      · cases first with
        | sign spelling => exact ⟨_, rfl, by simp⟩
        | _ => exact absurd hname hvalue
  obtain ⟨stop, hstop, hdeep⟩ := herror
  exact run_maybe_of_error hstop hdeep

/-- What comes after an argument does not give it a name. -/
lemma beginsNamed_append {ls rest : List Located} {t : Token} {ts : List Token}
    (hls : ls.map Located.token = t :: ts) (hname : beginsNamed (t :: ts) = false)
    (hrest : (front rest).token.isKeyword "VALUE" = false) :
    beginsNamed ((ls ++ rest).map Located.token) = false := by
  rw [List.map_append, hls]
  cases t with
  | sign spelling => rfl
  | _ =>
    cases ts with
    | cons t ts => exact hname
    | nil =>
      cases rest with
      | nil => rfl
      | cons l rest => exact hrest

/-- An argument is read. -/
lemma IsArgument.read (hin : ReadsInside r inner level) {ts : List Token} {e : Expr}
    (h : IsArgument r.reserved level ts e) {ls rest : List Located}
    (hls : ls.map Located.token = ts) (htidy : Tidy (ls ++ rest))
    (hrest : (front rest).token ∈ closers) :
    ∃ a, argument inner ansi (ls ++ rest) = .ok (a, rest) ∧ r.LowersArgument a e := by
  have hstages (hname : beginsNamed ((ls ++ rest).map Located.token) = false) :
      argument inner ansi (ls ++ rest) = plainArgument inner ansi (ls ++ rest) := by
    have hpostgres : ansi.dialect.isOneOf [.postgres] = false := rfl
    simp only [argument, run_bind, run_dialectIn, hpostgres, Bool.false_eq_true, if_false,
      namedArgument_none htidy hname]
  have hvalue : (front rest).token.isKeyword "VALUE" = false := by
    have hclosers : ∀ t ∈ closers, t.isKeyword "VALUE" = false := by decide
    exact hclosers _ hrest
  cases h with
  | term h hname =>
    have hbefore := before_of_closer hrest htidy.right
    obtain ⟨left, hasterisk⟩ := hin.noAsterisk h hls hbefore
    obtain ⟨t, hread, hlowers⟩ := hin.reads h hls htidy.left hbefore
    refine ⟨.term t, ?_, lowersArgument_term hlowers⟩
    obtain ⟨first, more, rfl, -⟩ := hin.begins h
    rw [hstages (beginsNamed_append hls hname hvalue)]
    simp only [plainArgument, starred, run_bind, lookFor, hasterisk, Inner.term, hread, run_pure]
  | asterisk =>
    obtain ⟨star, rfl, hstar⟩ := List.map_eq_singleton_iff.mp hls
    refine ⟨.wildcard, ?_, lowersArgument_wildcard⟩
    rw [hstages (beginsNamed_append (by rw [List.map_singleton, hstar]) rfl hvalue)]
    simp only [plainArgument, starred, run_bind, lookFor, Grammar.asterisk, List.singleton_append,
      run_next, front_cons, hstar, run_pure, List.tail_cons]
  | qualified h =>
    obtain ⟨path, more, rfl, hpath, hmore⟩ := List.map_eq_append_iff.mp hls
    obtain ⟨dot, more, rfl, hdot, hmore⟩ := List.map_eq_cons_iff.mp hmore
    obtain ⟨star, rfl, hstar⟩ := List.map_eq_singleton_iff.mp hmore
    obtain ⟨idents, hasterisk, hnames⟩ := asterisk_qualified h hpath hdot hstar rest
    refine ⟨.qualifiedWildcard idents, ?_, lowersArgument_qualified hnames⟩
    have hsecond : ∃ t ts, (path ++ [dot, star]).map Located.token = t :: ts ∧
        beginsNamed (t :: ts) = false := by
      rw [List.map_append, hpath]
      cases h with
      | last hpart | more hpart _ =>
        obtain ⟨quote, rfl⟩ := hpart.eq_word
        exact ⟨_, _, rfl, by simp [hdot, beginsNamed, Token.isKeyword, Token.keyword?]⟩
    obtain ⟨t, ts, htokens, hname⟩ := hsecond
    rw [hstages (beginsNamed_append htokens hname hvalue)]
    simp only [plainArgument, starred, run_bind, lookFor, List.append_assoc, List.cons_append,
      List.nil_append, hasterisk, run_pure]

/-- No argument begins with a word that is about all of them, and none with the parenthesis that
closes them. -/
lemma IsArgument.first (hreserved : r.reserved.IsComplete) (hin : ReadsInside r inner level)
    {ts : List Token} {e : Expr} (h : IsArgument r.reserved level ts e) :
    ∃ t ts', ts = t :: ts' ∧ t.isKeyword "ALL" = false ∧ t.isKeyword "DISTINCT" = false ∧
      t ≠ .sign ")" := by
  cases h with
  | term h _ =>
    obtain ⟨t, ts, rfl, hfirst, hsigns⟩ := hin.begins h
    exact ⟨t, ts, rfl, isKeyword_of_not_isOneOf hfirst (by decide),
      isKeyword_of_not_isOneOf hfirst (by decide),
      fun heq => hsigns (by simp [heq, notFirstSigns])⟩
  | asterisk => exact ⟨_, _, rfl, rfl, rfl, by simp⟩
  | qualified h =>
    obtain ⟨t, ts, part, rfl, hpart⟩ := h.first
    obtain ⟨quote, hword⟩ := hpart.eq_word
    exact ⟨t, _, rfl, hpart.not_keyword hreserved (by decide),
      hpart.not_keyword hreserved (by decide), by simp [hword]⟩

/-- The clauses that may stand before a closing parenthesis are not there. -/
lemma argumentClauses_none (inner : Inner) {close : Located} (hclose : close.token = .sign ")")
    (rest : List Located) :
    argumentClauses inner ansi (close :: rest) = .ok ([], close :: rest) := by
  have hkeyword (word : String) : (front (close :: rest)).token.isKeyword word = false := by
    simp [hclose, Token.isKeyword, Token.keyword?]
  simp only [argumentClauses, clauseIf, nullMembers, run_bind, run_keywords_of_not (hkeyword _),
    run_keyword, hkeyword, run_onlyIn, Bool.false_eq_true, if_false, ite_self, run_pure]
  rfl

/-- The arguments of a call are read up to the closing parenthesis. -/
lemma argumentList_of {args : List Argument} {ls rest : List Located} {close : Located}
    (hclose : close.token = .sign ")") (htidy : Tidy (ls ++ close :: rest))
    (hfirst : ∃ l ls', ls = l :: ls' ∧ l.token.isKeyword "ALL" = false ∧
      l.token.isKeyword "DISTINCT" = false ∧ l.token ≠ .sign ")")
    (hargs : commaSeparated (argument inner) ansi (ls ++ close :: rest) =
      .ok (args, close :: rest)) :
    argumentList inner ansi (ls ++ close :: rest) = .ok ({ args }, rest) := by
  obtain ⟨l, ls, rfl, hall, hdistinct, hopen⟩ := hfirst
  have hclauses := argumentClauses_none inner hclose rest
  have htreatment : nullTreatment ansi (close :: rest) = .ok (none, close :: rest) := by
    simp only [nullTreatment, run_bind, run_oneOf, front_cons, hclose, Token.keyword?,
      Option.filter_none, run_pure]
  have hansi : ansi.dialect.isOneOf [.ansi] = true := rfl
  have hfirst := htidy
  rw [List.cons_append] at hfirst hargs ⊢
  simp only [argumentList, nullMembers, run_bind, hfirst.keywords, Bool.false_eq_true, if_false,
    run_pure, run_sign, front_cons, hopen, argumentQuantifier, run_peek, run_keyword, hall,
    hdistinct, hargs, run_dialectIn, hansi, if_true, htreatment, hclauses, run_expectSign, hclose,
    List.tail_cons]

lemma argumentList_nil {close : Located} {rest : List Located} (hclose : close.token = .sign ")")
    (htidy : Tidy (close :: rest)) :
    argumentList inner ansi (close :: rest) = .ok ({}, rest) := by
  simp only [argumentList, nullMembers, run_bind, htidy.keywords, Bool.false_eq_true, if_false,
    run_pure, run_sign, front_cons, hclose, if_true, List.tail_cons]

/-- The arguments of a call are read as they are derived, if there are any. -/
lemma argumentList_read (hreserved : r.reserved.IsComplete) (hin : ReadsInside r inner level)
    {ts : List Token} {es : List Expr}
    (h : ts = [] ∧ es = [] ∨ Listed (IsArgument r.reserved level) ts es) {ls rest : List Located}
    {close : Located} (hls : ls.map Located.token = ts) (hclose : close.token = .sign ")")
    (htidy : Tidy (ls ++ close :: rest)) :
    ∃ args, argumentList inner ansi (ls ++ close :: rest) = .ok ({ args }, rest) ∧
      List.Forall₂ r.LowersArgument args es := by
  rcases h with ⟨rfl, rfl⟩ | h
  · obtain rfl : ls = [] := by simpa using hls
    exact ⟨[], argumentList_nil hclose htidy, .nil⟩
  · have hend : (front (close :: rest)).token ∈ closers := by simp [hclose, closers]
    obtain ⟨args, hread, hlowers⟩ :=
      h.read (by decide) (fun _ _ h _ _ => h.read hin) hls htidy hend (by simp [hclose])
    obtain ⟨t, ts, rfl, hfirst⟩ := h.first fun _ _ h => h.first hreserved hin
    obtain ⟨l, ls, rfl, rfl, -⟩ := List.map_eq_cons_iff.mp hls
    exact ⟨args, argumentList_of hclose htidy ⟨l, ls, rfl, hfirst⟩ hread, hlowers⟩

/-- A call whose arguments are read is read, when nothing else belongs to it. -/
lemma callAfter_of {name : List Ident} {args : List Argument} {ls rest : List Located} {next : Nat}
    {opening : Located} (hopen : opening.token = .sign "(")
    (hlist : argumentList inner ansi ls = .ok ({ args }, rest)) (hrest : Before next rest) :
    callAfter inner name false ansi (opening :: ls) = .ok (.call name {} args, rest) := by
  have hansi : ansi.dialect.isOneOf [.ansi] = true := rfl
  have hfilter : ansi.dialect.isOneOf [.postgres, .sqlite] = false := rfl
  have hnone : (none : Option String).isSome = false := rfl
  simp only [callAfter, run_bind, run_expectSign, front_cons, hopen, if_true, List.tail_cons, hlist,
    run_onlyIn, hansi, hrest.sign "(" (by decide), Bool.false_eq_true, if_false,
    run_pure, hnone, withinGroup, hrest.keywords "WITHIN" (by decide), callFilter, hfilter,
    nullTreatment, hrest.oneOf ["RESPECT", "IGNORE"] (by decide),
    run_afterKeyword_of_not (hrest.keyword "OVER" (by decide))]
  rfl

end Arguments

end SelectBinding.Sql.Grammar
