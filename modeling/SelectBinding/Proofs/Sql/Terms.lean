import SelectBinding.Proofs.Sql.Operands
import SelectBinding.Sql.Grammar.Queries

/-!
Terms are read as they are derived.
-/

namespace SelectBinding.Sql.Grammar

open Sql.Parser Sql.Reading

/-! ### Operators -/

lemma bindingAhead_sign {l : Located} {ls : List Located} {spelling : String}
    (hl : l.token = .sign spelling) :
    bindingAhead (l :: ls) = ((signGroup .ansi spelling).map (·.binding .ansi)).getD 0 :=
  bindingAhead_eq (by simp only [nextGroup, run_bind, run_peek, run_peekAt, front_cons, hl, run_pure])

lemma bindingAhead_word {l : Located} {ls : List Located} {word : String} (hl : l.token = kw word)
    (group : Option OperatorGroup)
    (h : wordGroup (Token.capitalized word) (front ls).token (front ls.tail).token = group) :
    bindingAhead (l :: ls) = (group.map (·.binding .ansi)).getD 0 := by
  refine bindingAhead_eq ?_
  have hsecond : ((l :: ls)[1]?).getD finish = front ls := by simp [front]
  have hthird : ((l :: ls)[2]?).getD finish = front ls.tail := by
    cases ls <;> simp [front]
  simp only [nextGroup, run_bind, run_peek, run_peekAt, front_cons, hl, hsecond, hthird, run_pure,
    Token.keyword?, Option.bind_some, h]

/-- What an operator after a term binds as. -/
lemma bindingAhead_operator (op : BinaryOp) {ls rest : List Located}
    (h : ls.map Located.token = op.tokens) : bindingAhead (ls ++ rest) = op.strength := by
  cases op with
  | notLike =>
    obtain ⟨l, more, rfl, hl, hmore⟩ := List.map_eq_cons_iff.mp h
    obtain ⟨l', rfl, hl'⟩ := List.map_eq_singleton_iff.mp hmore
    exact bindingAhead_word hl (some .pattern) (by simp [hl']; rfl)
  | notIn =>
    obtain ⟨l, more, rfl, hl, hmore⟩ := List.map_eq_cons_iff.mp h
    obtain ⟨l', rfl, hl'⟩ := List.map_eq_singleton_iff.mp hmore
    exact bindingAhead_word hl (some .membership) (by simp [hl']; rfl)
  | like | isIn | and | or | xor =>
    obtain ⟨l, rfl, hl⟩ := List.map_eq_singleton_iff.mp h
    exact bindingAhead_word hl _ rfl
  | _ =>
    obtain ⟨l, rfl, hl⟩ := List.map_eq_singleton_iff.mp h
    exact bindingAhead_sign hl

section Operators

variable {inner : Inner} {left right : Term} {binding : Nat} {ls rest : List Located}

lemma run_oneOf_of_not {words : List String} (h : (front ls).token.isOneOf words = false)
    (c : Context) : oneOf words c ls = .ok (none, ls) := by
  have hnone : (front ls).token.keyword?.filter words.contains = none := by
    unfold Token.isOneOf at h
    cases hk : (front ls).token.keyword? with
    | none => rfl
    | some word =>
      rw [hk, Option.any_some] at h
      simp only [Option.filter_some, h, Bool.false_eq_true, if_false]
  rw [run_oneOf, hnone]

/-- An operator that is one token of its own is read with the term after it. -/
lemma operatorAfter_plain {op : BinaryOp} (halone : op.standsAlone = true) {l : Located}
    (hl : op.tokens = [l.token]) (hfirst : (front ls).token.isOneOf ["ANY", "ALL", "SOME"] = false)
    (hread : inner.termAbove binding ansi ls = .ok (right, rest)) :
    operatorAfter inner left binding ansi (l :: ls) =
      .ok (.binary left (.known op halone) right, rest) := by
  have hplain : l.token.isOneOf negatableWords = false ∧
      ∀ ls, plainOperator l.token ansi ls = .ok (some (.known op halone), ls) := by
    cases op with
    | like | notLike | isIn | notIn => simp [BinaryOp.standsAlone] at halone
    | _ =>
      obtain hl := (List.cons.inj hl).1
      rw [← hl]
      exact ⟨by decide, fun _ => rfl⟩
  have hmysql : ansi.dialect.isOneOf [.mysql] = false := rfl
  simp only [operatorAfter, run_bind, run_peek, front_cons, run_onlyIn, hmysql, Bool.false_eq_true,
    if_false, hplain.1, run_next, List.tail_cons, hplain.2, run_oneOf_of_not hfirst, hread,
    run_pure]

/-- What may be negated is looked at as such. -/
lemma operatorAfter_negatable (hfront : (front ls).token.isOneOf negatableWords = true) :
    operatorAfter inner left binding ansi ls = negatable inner left ansi ls := by
  have hmysql : ansi.dialect.isOneOf [.mysql] = false := rfl
  simp only [operatorAfter, run_bind, run_peek, run_onlyIn, hmysql, Bool.false_eq_true, if_false,
    hfront, if_true]

/-- The words that an operator is, of those that may be negated. -/
lemma negatable_words {op : BinaryOp} {word : String} {found : List Located} (negated : Bool)
    (htokens : op.tokens = (if negated then [kw "NOT"] else []) ++ [kw word])
    (hword : Token.capitalized word ∈ ["IN", "LIKE"])
    (hfound : found.map Located.token = op.tokens) :
    (front (found ++ ls)).token.isOneOf negatableWords = true ∧
      ∃ last, last.token = kw word ∧
        keyword "NOT" ansi (found ++ ls) = .ok (negated, last :: ls) := by
  rw [htokens] at hfound
  cases negated with
  | true =>
    obtain ⟨first, more, rfl, hfirst, hmore⟩ := List.map_eq_cons_iff.mp hfound
    obtain ⟨last, rfl, hlast⟩ := List.map_eq_singleton_iff.mp hmore
    refine ⟨by simp only [List.cons_append, front_cons, hfirst]; decide, last, hlast, ?_⟩
    rw [run_keyword, List.cons_append, front_cons, hfirst]
    rfl
  | false =>
    obtain ⟨last, rfl, hlast⟩ := List.map_eq_singleton_iff.mp hfound
    have hkeyword : last.token.keyword? = some (Token.capitalized word) := by rw [hlast]; rfl
    simp only [List.mem_cons, List.not_mem_nil, or_false] at hword
    refine ⟨?_, last, hlast, ?_⟩
    · simp only [List.singleton_append, front_cons, Token.isOneOf, hkeyword, Option.any_some]
      rcases hword with h | h <;> rw [h] <;> decide
    · rw [run_keyword, List.singleton_append, front_cons, Token.isKeyword, hkeyword]
      rcases hword with h | h <;> rw [h] <;> rfl

lemma matchWord?_none (h : (front ls).token.isOneOf ["REGEXP", "RLIKE"] = false) :
    matchWord? ansi ls = .ok (none, ls) := by
  have hfirst : (front ls).token.isOneOf ["REGEXP"] = false := isOneOf_of_subset h (by decide)
  have hsecond : (front ls).token.isOneOf ["RLIKE"] = false := isOneOf_of_subset h (by decide)
  simp only [matchWord?, run_bind, run_oneOf_of_not hfirst, run_oneOf_of_not hsecond, run_pure,
    Option.orElse_none]

/-- A comparison with a pattern is read. -/
lemma operatorAfter_like (negated : Bool) {found : List Located} {next : Nat}
    (hfound : found.map Located.token = (if negated then BinaryOp.notLike else .like).tokens)
    (hfirst : (front ls).token.isKeyword "ANY" = false)
    (hread : inner.termAbove BinaryOp.like.strength ansi ls = .ok (right, rest))
    (hrest : Before next rest) :
    operatorAfter inner left binding ansi (found ++ ls) =
      .ok (.like negated false left right none, rest) := by
  have htokens : (if negated then BinaryOp.notLike else .like).tokens =
      (if negated then [kw "NOT"] else []) ++ [kw "LIKE"] := by
    cases negated <;> rfl
  obtain ⟨hfront, last, hlast, hnot⟩ := negatable_words negated htokens (by decide) hfound
  have hpattern : OperatorGroup.pattern.binding ansi.dialect = BinaryOp.like.strength := rfl
  rw [operatorAfter_negatable hfront]
  have hmatch : matchWord? ansi (last :: ls) = .ok (none, last :: ls) :=
    matchWord?_none (by rw [front_cons, hlast]; decide)
  have hother : ∀ word ∈ ["IN", "BETWEEN"], last.token.isKeyword word = false := by
    rw [hlast]
    decide
  have hlike : last.token.isKeyword "LIKE" = true := by
    rw [hlast]
    rfl
  have hescape : escape? ansi rest = .ok (none, rest) :=
    run_afterKeyword_of_not (hrest.keyword "ESCAPE" (by decide))
  simp only [negatable, run_bind, hnot, hmatch, run_keyword, front_cons, hother "IN" (by decide),
    hother "BETWEEN" (by decide), hlike, Bool.false_eq_true, if_false, if_true, List.tail_cons,
    hfirst, bindingOf, run_dialect, run_pure, hpattern, hread, hescape]

/-- A question of membership is read. -/
lemma operatorAfter_membership (negated : Bool) {found : List Located} {opening close : Located}
    {items : List Term}
    (hfound : found.map Located.token = (if negated then BinaryOp.notIn else .isIn).tokens)
    (hopen : opening.token = .sign "(") (hclose : close.token = .sign ")")
    (hfirst : (front ls).token.isOneOf ["SELECT", "WITH"] = false)
    (hread : commaSeparated inner.term ansi ls = .ok (items, close :: rest)) :
    operatorAfter inner left binding ansi (found ++ opening :: ls) =
      .ok (.inList left items negated, rest) := by
  have htokens : (if negated then BinaryOp.notIn else .isIn).tokens =
      (if negated then [kw "NOT"] else []) ++ [kw "IN"] := by
    cases negated <;> rfl
  obtain ⟨hfront, last, hlast, hnot⟩ := negatable_words negated htokens (by decide) hfound
  rw [operatorAfter_negatable hfront]
  have hmatch : matchWord? ansi (last :: opening :: ls) = .ok (none, last :: opening :: ls) :=
    matchWord?_none (by rw [front_cons, hlast]; decide)
  have hin : last.token.isKeyword "IN" = true := by
    rw [hlast]
    rfl
  have hunnest : (Token.sign "(").isKeyword "UNNEST" = false := rfl
  have hquery : queryAhead ansi ls = .ok (false, ls) := by
    simp only [queryAhead, run_bind, run_peek, hfirst, run_pure]
  have hsqlite : ansi.dialect.isOneOf [.sqlite] = false := rfl
  simp only [negatable, run_bind, hnot, hmatch, run_keyword, front_cons, hin, if_true,
    List.tail_cons, membership, hunnest, Bool.false_eq_true, if_false, parenthesized,
    run_expectSign, hopen, hquery, run_dialectIn, hsqlite, hread, run_pure, hclose]

/-- A question about null is read. -/
lemma operatorAfter_isNull {word last : Located} (hword : word.token = kw "IS")
    (hlast : last.token = kw "NULL") :
    operatorAfter inner left binding ansi (word :: last :: ls) = .ok (.isNull left, ls) := by
  have hmysql : ansi.dialect.isOneOf [.mysql] = false := rfl
  have hnegatable : (kw "IS").isOneOf negatableWords = false := by decide
  have hplain (ls : List Located) : plainOperator (kw "IS") ansi ls = .ok (none, ls) := rfl
  have hkeyword : (kw "IS").keyword? = some "IS" := rfl
  have hnull : (kw "NULL").isKeyword "NULL" = true := rfl
  simp only [operatorAfter, run_bind, run_peek, front_cons, run_onlyIn, hmysql, Bool.false_eq_true,
    if_false, hword, hnegatable, run_next, List.tail_cons, hplain, otherOperator, hkeyword, isForm,
    run_keyword, hlast, hnull, if_true, run_pure]

/-- The opposite question is read. -/
lemma operatorAfter_isNotNull {word second last : Located} (hword : word.token = kw "IS")
    (hsecond : second.token = kw "NOT") (hlast : last.token = kw "NULL") :
    operatorAfter inner left binding ansi (word :: second :: last :: ls) =
      .ok (.isNotNull left, ls) := by
  have hmysql : ansi.dialect.isOneOf [.mysql] = false := rfl
  have hnegatable : (kw "IS").isOneOf negatableWords = false := by decide
  have hplain (ls : List Located) : plainOperator (kw "IS") ansi ls = .ok (none, ls) := rfl
  have hkeyword : (kw "IS").keyword? = some "IS" := rfl
  have hnull : (kw "NOT").isKeyword "NULL" = false := rfl
  have hwords : keywords ["NOT", "NULL"] ansi (second :: last :: ls) = .ok (true, ls) := by
    simp only [keywords, List.length_cons, List.length_nil, List.take_succ_cons, List.take_zero,
      List.zip_cons_cons, List.zip_nil_right, List.all_cons, List.all_nil, hsecond, hlast]
    rfl
  simp only [operatorAfter, run_bind, run_peek, front_cons, run_onlyIn, hmysql, Bool.false_eq_true,
    if_false, hword, hnegatable, run_next, List.tail_cons, hplain, otherOperator, hkeyword, isForm,
    run_keyword, hsecond, hnull, hwords, if_true, run_pure]

end Operators

/-! ### Terms -/

section Terms

variable {r : Reading} {inner : Inner} {level : Level} {bound follow next : Nat}

lemma front_operator (op : BinaryOp) {ls rest : List Located}
    (h : ls.map Located.token = op.tokens) : (front (ls ++ rest)).token ∈ followers := by
  obtain ⟨t, ts, htokens, hfollower⟩ : ∃ t ts, op.tokens = t :: ts ∧ t ∈ followers := by
    cases op <;> exact ⟨_, _, rfl, by decide⟩
  rw [htokens] at h
  obtain ⟨l, ls, rfl, rfl, -⟩ := List.map_eq_cons_iff.mp h
  exact hfollower

/-- What follows an operand is the next operator, or the end of the term. -/
lemma Continues.follows {e e' : Expr} {ts : List Token}
    (h : Continues level bound follow next e ts e') {ls rest : List Located}
    (hls : ls.map Located.token = ts) (hrest : Before follow rest) :
    (front (ls ++ rest)).token ∈ followers ∧ bindingAhead (ls ++ rest) = next := by
  cases h with
  | done =>
    obtain rfl : ls = [] := by simpa using hls
    exact ⟨hrest.follower, hrest.binding⟩
  | isNull | isNotNull =>
    obtain ⟨l, ls, rfl, hl, -⟩ := List.map_eq_cons_iff.mp hls
    exact ⟨by simp only [List.cons_append, front_cons, hl]; decide, bindingAhead_word hl _ rfl⟩
  | @operation _ op =>
    obtain ⟨found, more, rfl, hfound, -⟩ := List.map_eq_append_iff.mp hls
    rw [List.append_assoc]
    exact ⟨front_operator op hfound, bindingAhead_operator op hfound⟩
  | @membership _ op =>
    obtain ⟨found, more, rfl, hfound, -⟩ := List.map_eq_append_iff.mp hls
    rw [List.append_assoc]
    exact ⟨front_operator op hfound, bindingAhead_operator op hfound⟩

lemma Continues.before {e e' : Expr} {ts : List Token}
    (h : Continues level bound follow next e ts e') {ls rest : List Located}
    (hls : ls.map Located.token = ts) (htidy : Tidy ls) (hrest : Before follow rest) :
    Before next (ls ++ rest) :=
  ⟨(h.follows hls hrest).1, (h.follows hls hrest).2, htidy.append hrest.tidy⟩

/-- One more operator is read when it binds tightly enough. -/
lemma nextOperator_of {ls rest : List Located} {left term : Term} (hbefore : bindingAhead ls = next)
    (hbound : bound < next) (h : operatorAfter inner left next ansi ls = .ok (term, rest)) :
    nextOperator inner bound left ansi ls = .ok (some term, rest) := by
  simp only [nextOperator, run_bind, run_nextBinding, hbefore, hbound, if_true, run_map, h]

/-- An operator with the term after it is read. -/
lemma operatorAfter_operation {op : BinaryOp} (hop : op.asksMembership = false)
    (hin : ReadsInside r inner level) {e right : Expr} {ts : List Token}
    (h : level op.strength next ts right) {found ls rest : List Located} {left : Term}
    (hfound : found.map Located.token = op.tokens) (hls : ls.map Located.token = ts)
    (htidy : Tidy ls) (hrest : Before next rest) (hleft : r.Lowers left e) :
    ∃ term, operatorAfter inner left op.strength ansi (found ++ (ls ++ rest)) = .ok (term, rest) ∧
      r.Lowers term (.operation e op right) := by
  obtain ⟨term, hread, hright⟩ := hin.reads h hls htidy hrest
  have hfirst : (front (ls ++ rest)).token.isOneOf notFirst = false := by
    obtain ⟨t, ts, rfl, hfirst, -⟩ := hin.begins h
    obtain ⟨l, ls, rfl, rfl, -⟩ := List.map_eq_cons_iff.mp hls
    exact hfirst
  have hany : (front (ls ++ rest)).token.isKeyword "ANY" = false :=
    isKeyword_of_not_isOneOf hfirst (by decide)
  by_cases hlike : op = .like
  · subst hlike
    exact ⟨_, operatorAfter_like false hfound hany hread hrest, hleft.like false hright⟩
  by_cases hnot : op = .notLike
  · subst hnot
    exact ⟨_, operatorAfter_like true hfound hany hread hrest, hleft.like true hright⟩
  have halone : op.standsAlone = true := by
    cases op <;> first | rfl | exact absurd rfl hlike | exact absurd rfl hnot | cases hop
  obtain ⟨l, rfl⟩ : ∃ l, found = [l] := by
    have hone : op.tokens.length = 1 := by
      cases op <;> first | rfl | cases halone
    rw [← hfound, List.length_map] at hone
    exact List.length_eq_one_iff.mp hone
  exact ⟨_, operatorAfter_plain halone hfound.symm (isOneOf_of_subset hfirst (by decide)) hread,
    hleft.binary halone hright⟩

/-- A question of membership with the list after it is read. -/
lemma operatorAfter_items {op : BinaryOp} (hop : op.asksMembership = true)
    (hin : ReadsInside r inner level) {e : Expr} {items : List Expr} {ts : List Token}
    (h : Listed (level 0 0) ts items) {opening close : Located} {found ls rest : List Located}
    {left : Term} (hfound : found.map Located.token = op.tokens)
    (hopen : opening.token = .sign "(") (hclose : close.token = .sign ")")
    (hls : ls.map Located.token = ts) (htidy : Tidy (ls ++ close :: rest))
    (hleft : r.Lowers left e) :
    ∃ term, operatorAfter inner left op.strength ansi
        (found ++ opening :: (ls ++ close :: rest)) = .ok (term, rest) ∧
      r.Lowers term (.operation e op (.list items)) := by
  have hend : (front (close :: rest)).token ∈ closers := by simp [hclose, closers]
  have hone (ts : List Token) (e : Expr) (h : level 0 0 ts e) (ls rest : List Located)
      (hls : ls.map Located.token = ts) (htidy : Tidy (ls ++ rest))
      (hrest : (front rest).token ∈ closers) :
      ∃ term, inner.term ansi (ls ++ rest) = .ok (term, rest) ∧ r.Lowers term e :=
    hin.reads h hls htidy.left (before_of_closer hrest htidy.right)
  obtain ⟨terms, hread, hterms⟩ := h.read (by decide) hone hls htidy hend (by simp [hclose])
  have hquery : (front (ls ++ close :: rest)).token.isOneOf ["SELECT", "WITH"] = false := by
    obtain ⟨t, ts, rfl, hfirst⟩ := h.first fun _ _ h => hin.begins h
    obtain ⟨l, ls, rfl, rfl, -⟩ := List.map_eq_cons_iff.mp hls
    exact isOneOf_of_subset hfirst.1 (by decide)
  have hlowers (negated : Bool) := hleft.inList negated (lowersAll_of_forall hterms)
  cases op with
  | isIn =>
    exact ⟨_, operatorAfter_membership false hfound hopen hclose hquery hread, hlowers false⟩
  | notIn =>
    exact ⟨_, operatorAfter_membership true hfound hopen hclose hquery hread, hlowers true⟩
  | _ => simp [BinaryOp.asksMembership] at hop

/-- **Operators.** Operator after operator is read as it is derived. -/
lemma Continues.read (hin : ReadsInside r inner level) {e e' : Expr} {ts : List Token}
    (h : Continues level bound follow next e ts e') {ls rest : List Located} {left : Term}
    (hls : ls.map Located.token = ts) (htidy : Tidy ls) (hrest : Before follow rest)
    (hleft : r.Lowers left e) :
    ∃ term, Runs ansi (nextOperator inner bound) left (ls ++ rest) term rest ∧
      r.Lowers term e' := by
  induction h generalizing ls left with
  | done hbound =>
    obtain rfl : ls = [] := by simpa using hls
    refine ⟨left, .done ?_, hleft⟩
    simp only [nextOperator, run_bind, run_nextBinding, List.nil_append, hrest.binding,
      Nat.not_lt.mpr hbound, if_false, run_pure]
  | isNull hbound hmore ih =>
    have hbefore := (Continues.isNull hbound hmore).before hls htidy hrest
    obtain ⟨word, more, rfl, hword, hls⟩ := List.map_eq_cons_iff.mp hls
    obtain ⟨last, ls, rfl, hlast, hls⟩ := List.map_eq_cons_iff.mp hls
    obtain ⟨term, hruns, hlowers⟩ := ih hls htidy.tail.tail hleft.isNull
    exact ⟨term, .more (nextOperator_of hbefore.binding hbound (operatorAfter_isNull hword hlast))
      (by simp only [List.append_eq, List.cons_append, List.length_cons]; omega) hruns, hlowers⟩
  | isNotNull hbound hmore ih =>
    have hbefore := (Continues.isNotNull hbound hmore).before hls htidy hrest
    obtain ⟨word, more, rfl, hword, hls⟩ := List.map_eq_cons_iff.mp hls
    obtain ⟨second, more, rfl, hsecond, hls⟩ := List.map_eq_cons_iff.mp hls
    obtain ⟨last, ls, rfl, hlast, hls⟩ := List.map_eq_cons_iff.mp hls
    obtain ⟨term, hruns, hlowers⟩ := ih hls htidy.tail.tail.tail hleft.isNotNull
    exact ⟨term, .more
      (nextOperator_of hbefore.binding hbound (operatorAfter_isNotNull hword hsecond hlast))
      (by simp; omega) hruns, hlowers⟩
  | @operation _ op _ _ _ _ _ hop hbound hright hmore ih =>
    have hbefore := (Continues.operation hop hbound hright hmore).before hls htidy hrest
    obtain ⟨found, more, rfl, hfound, hls⟩ := List.map_eq_append_iff.mp hls
    obtain ⟨inside, ls, rfl, hinside, hls⟩ := List.map_eq_append_iff.mp hls
    rw [List.append_assoc, List.append_assoc] at hbefore ⊢
    have hnext := hmore.before hls htidy.right.right hrest
    obtain ⟨term, hread, hterm⟩ :=
      operatorAfter_operation hop hin hright hfound hinside htidy.right.left hnext hleft
    obtain ⟨term, hruns, hlowers⟩ := ih hls htidy.right.right hterm
    have hlt : 0 < found.length := by
      rw [← List.length_map (f := Located.token), hfound]
      cases op <;> decide
    exact ⟨term, .more (nextOperator_of hbefore.binding hbound hread) (by simp; omega) hruns,
      hlowers⟩
  | @membership _ op _ _ _ _ _ hop hbound hitems hmore ih =>
    have hbefore := (Continues.membership hop hbound hitems hmore).before hls htidy hrest
    obtain ⟨found, more, rfl, hfound, hls⟩ := List.map_eq_append_iff.mp hls
    obtain ⟨opening, more, rfl, hopen, hls⟩ := List.map_eq_cons_iff.mp hls
    obtain ⟨inside, more, rfl, hinside, hls⟩ := List.map_eq_append_iff.mp hls
    obtain ⟨close, ls, rfl, hclose, hls⟩ := List.map_eq_cons_iff.mp hls
    have hinsideTidy : Tidy (inside ++ close :: (ls ++ rest)) := by
      simpa using htidy.right.tail.append hrest.tidy
    obtain ⟨term, hread, hterm⟩ :=
      operatorAfter_items hop hin hitems hfound hopen hclose hinside hinsideTidy hleft
    obtain ⟨term, hruns, hlowers⟩ := ih hls hinsideTidy.right.tail.left hterm
    have hshape : found ++ opening :: (inside ++ close :: ls) ++ rest =
        found ++ opening :: (inside ++ close :: (ls ++ rest)) := by simp
    rw [hshape] at hbefore ⊢
    exact ⟨term, .more (nextOperator_of hbefore.binding hbound hread) (by simp; omega) hruns,
      hlowers⟩

/-! ### Levels -/

/-- **Terms.** What is derived is read. -/
lemma Above.read (hreserved : r.reserved.IsComplete) (hin : ReadsInside r inner level)
    {e : Expr} {ts : List Token} (h : Above r.reserved level bound follow ts e)
    {ls rest : List Located} (hls : ls.map Located.token = ts) (htidy : Tidy ls)
    (hrest : Before follow rest) :
    ∃ term, termAbove inner bound ansi (ls ++ rest) = .ok (term, rest) ∧ r.Lowers term e := by
  obtain ⟨hoperand, hmore⟩ := h
  obtain ⟨first, more, rfl, hfirst, hls⟩ := List.map_eq_append_iff.mp hls
  have hbefore := hmore.before hls htidy.right hrest
  obtain ⟨start, hread, hstart⟩ := hoperand.read hreserved hin hfirst htidy.left hbefore
  obtain ⟨term, hruns, hlowers⟩ := hmore.read hin hls htidy.right hrest hstart
  refine ⟨term, ?_, hlowers⟩
  rw [List.append_assoc, termAbove, run_bind, hread]
  exact hruns.repeatedly

lemma asterisk_none_of_word {l : Located} {ls : List Located} {value : String}
    {quote : Option Char} (hl : l.token = .word value quote) (h : (front ls).token ≠ .sign ".") :
    asterisk ansi (l :: ls) = .ok (none, ls) :=
  asterisk_pointed hl .nil h

/-- No term is an asterisk with a name before it. -/
lemma IsOperand.noAsterisk (hin : ReadsInside r inner level) {e : Expr} {ts : List Token}
    (h : IsOperand r.reserved level next ts e) {ls rest : List Located}
    (hls : ls.map Located.token = ts) (hrest : (front rest).token ≠ .sign ".") :
    ∃ left, asterisk ansi (ls ++ rest) = .ok (none, left) := by
  have hword {l : Located} {word : String} (hl : ls = [l]) (hword : l.token = kw word) :
      ∃ left, asterisk ansi (ls ++ rest) = .ok (none, left) := by
    subst hl
    exact ⟨rest, asterisk_none_of_word hword hrest⟩
  have hsign {l : Located} {more : List Located} {spelling : String} (hls : ls = l :: more)
      (hl : l.token = .sign spelling) (hother : spelling ∈ ["+", "-", "("]) :
      ∃ left, asterisk ansi (ls ++ rest) = .ok (none, left) := by
    subst hls
    refine ⟨more ++ rest, ?_⟩
    simp only [asterisk, run_bind, List.cons_append, run_next, front_cons, hl, List.tail_cons]
    simp only [List.mem_cons, List.not_mem_nil, or_false] at hother
    rcases hother with rfl | rfl | rfl <;> rfl
  cases h with
  | plus =>
    obtain ⟨l, more, hls, hl, -⟩ := List.map_eq_cons_iff.mp hls
    exact hsign hls hl (by decide)
  | minus =>
    obtain ⟨l, more, hls, hl, -⟩ := List.map_eq_cons_iff.mp hls
    exact hsign hls hl (by decide)
  | not h =>
    obtain ⟨l, ls, rfl, hl, hls⟩ := List.map_eq_cons_iff.mp hls
    refine ⟨ls ++ rest, asterisk_none_of_word hl ?_⟩
    obtain ⟨t, ts, rfl, -, hfirst⟩ := hin.begins h
    obtain ⟨l, ls, rfl, rfl, -⟩ := List.map_eq_cons_iff.mp hls
    exact fun heq => hfirst (by simp_all [notFirstSigns])
  | primary h =>
    cases h with
    | null | yes | no =>
      obtain ⟨l, hls, hl⟩ := List.map_eq_singleton_iff.mp hls
      exact hword hls hl
    | number h =>
      obtain ⟨l, rfl, hl⟩ := List.map_eq_singleton_iff.mp hls
      refine ⟨rest, ?_⟩
      simp only [asterisk, run_bind, List.singleton_append, run_next, front_cons, hl,
        List.tail_cons, run_pure]
    | text value =>
      obtain ⟨l, rfl, hl⟩ := List.map_eq_singleton_iff.mp hls
      refine ⟨rest, ?_⟩
      simp only [asterisk, run_bind, List.singleton_append, run_next, front_cons, hl,
        List.tail_cons, nameBeforeAsterisk, run_repeatedly_of_none (partBeforeAsterisk_none hrest),
        run_sign, if_neg hrest, Bool.false_eq_true, if_false, run_pure]
    | name h => exact ⟨rest, asterisk_path h hls hrest⟩
    | emptyCall | call =>
      obtain ⟨l, more, rfl, hl, hmore⟩ := List.map_eq_cons_iff.mp hls
      obtain ⟨opening, more, rfl, hopen, -⟩ := List.map_eq_cons_iff.mp hmore
      exact ⟨_, asterisk_none_of_word hl (by simp [hopen])⟩
    | nested h =>
      obtain ⟨l, more, hls, hl, -⟩ := List.map_eq_cons_iff.mp hls
      exact hsign hls hl (by decide)

end Terms

/-- **Levels.** So many levels of the grammar read what so many levels derive. -/
theorem readsInside_level {r : Reading} (hreserved : r.reserved.IsComplete) (depth : Nat) :
    ReadsInside r (level depth) (derives r.reserved depth) := by
  induction depth with
  | zero => exact ⟨fun h => h.elim, fun h => h.elim, fun h => h.elim⟩
  | succ depth ih =>
    refine ⟨fun h _ _ hls htidy hrest => Above.read hreserved ih h hls htidy hrest,
      fun h => derives_first hreserved h, ?_⟩
    rintro bound next _ _ ⟨hoperand, hmore⟩ ls rest hls hrest
    obtain ⟨first, more, rfl, hfirst, hls⟩ := List.map_eq_append_iff.mp hls
    rw [List.append_assoc]
    have hnot : ∀ t ∈ followers, t ≠ .sign "." := by decide
    exact hoperand.noAsterisk ih hfirst (hnot _ (hmore.follows hls hrest).1)

/-- An operand that no operator follows is a term. -/
lemma termAbove_operand {inner : Inner} {ls rest : List Located} {term : Term}
    (h : operand inner ansi ls = .ok (term, rest)) (hrest : Before 0 rest) :
    termAbove inner 0 ansi ls = .ok (term, rest) := by
  rw [termAbove, run_bind, h]
  refine run_repeatedly_of_none ?_
  simp only [nextOperator, run_bind, run_nextBinding, hrest.binding, Nat.lt_irrefl, if_false,
    run_pure]

/-- A name that no operator follows is read as the term it is. -/
lemma termAbove_name {r : Reading} (inner : Inner) (hreserved : r.reserved.IsComplete) {t : Token}
    {ts : List Token} {parts : List String} (h : IsPath r.reserved (t :: ts) parts)
    (hform : t.isOneOf nameForms = false) {ls rest : List Located}
    (hls : ls.map Located.token = t :: ts) (htidy : Tidy ls) (hrest : Before 0 rest) :
    ∃ idents, termAbove inner 0 ansi (ls ++ rest) = .ok (nameTerm idents, rest) ∧
      List.Forall₂ r.Names idents parts := by
  have hbracket := (htidy.append hrest.tidy).noBracket
  obtain ⟨l, ls, rfl, hl, hls⟩ := List.map_eq_cons_iff.mp hls
  obtain ⟨idents, collatable, hstart, hnames⟩ :=
    operandStart_name hreserved h hform hl hls hbracket hrest
  exact ⟨idents, termAbove_operand (operand_of_start hstart hrest) hrest, hnames⟩

/-- A number that no operator follows is read as the term it is. -/
lemma termAbove_number {inner : Inner} {l : Located} {rest : List Located} {spelling : String}
    (hl : l.token = .number spelling false) (hrest : Before 0 rest) :
    termAbove inner 0 ansi (l :: rest) = .ok (.literal (.number spelling false), rest) :=
  termAbove_operand (operand_of_start (operandStart_number hl) hrest) hrest

end SelectBinding.Sql.Grammar
