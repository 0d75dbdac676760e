import SelectBinding.Proofs.Sql.Clauses
import SelectBinding.Reader

/-!
Statements are read as they are derived.
-/

namespace SelectBinding.Sql.Grammar

open Sql.Parser Sql.Reading

/-- What a statement says: its columns, its tables, its filter and its sorting criteria. -/
structure Outline where
  columns : List Expr
  tables : List Expr
  filter : Option Expr
  ordering : List SortItem

/-- The tokens of a statement without its sorting, and what they say. -/
inductive IsSelect (reserved : Reserved) (level : Level) :
    List Token → List Expr → List Expr → Option Expr → Prop where
  | mk {cs fs ws : List Token} {columns tables : List Expr} {filter : Option Expr}
      (hcolumns : Listed (IsColumn reserved level) cs columns)
      (htables : IsClause ["FROM"] (IsTable reserved) fs tables) (hfilter : IsFilter level ws filter) :
      IsSelect reserved level (kw "SELECT" :: (cs ++ (fs ++ ws))) columns tables filter

/-- The tokens of a statement, and what they say. -/
inductive IsStatement (reserved : Reserved) (level : Level) : List Token → Outline → Prop where
  | mk {ss os : List Token} {o : Outline}
      (hselect : IsSelect reserved level ss o.columns o.tables o.filter)
      (hordering : IsClause ["ORDER", "BY"] (IsCriterion reserved) os o.ordering) :
      IsStatement reserved level (ss ++ os) o

/-! ### Selects -/

section Selects

variable {r : Reading} {inner : Inner} {level : Level} {rest : List Located}

/-- What may follow the tables of a select, and its filter. -/
def selectEnds : List Token :=
  [.finish, kw "ORDER"]

/-- The filter is read. -/
lemma IsFilter.read (hin : ReadsInside r inner level) {ts : List Token} {filter : Option Expr}
    (h : IsFilter level ts filter) {ls : List Located} (hls : ls.map Located.token = ts)
    (htidy : Tidy (ls ++ rest)) (hrest : (front rest).token ∈ selectEnds) :
    (front (ls ++ rest)).token ∈ kw "WHERE" :: selectEnds ∧
      ∃ found, afterKeyword "WHERE" inner.term ansi (ls ++ rest) = .ok (found, rest) ∧
        Option.Rel r.Lowers found filter := by
  have hends : ∀ t ∈ selectEnds, t ∈ closers ∧ t.isKeyword "WHERE" = false := by decide
  obtain ⟨hclose, hwhere⟩ := hends _ hrest
  cases h with
  | absent =>
    obtain rfl : ls = [] := by simpa using hls
    exact ⟨List.mem_cons_of_mem _ hrest, none, run_afterKeyword_of_not hwhere, .none⟩
  | present h =>
    obtain ⟨l, ls, rfl, hl, hls⟩ := List.map_eq_cons_iff.mp hls
    obtain ⟨t, hread, hlowers⟩ :=
      hin.reads h hls htidy.tail.left (before_of_closer hclose htidy.right)
    have hkeyword : (kw "WHERE").isKeyword "WHERE" = true := rfl
    refine ⟨by simp [hl], some t, ?_, .some hlowers⟩
    simp only [afterKeyword, run_bind, List.cons_append, run_keyword, front_cons, hl, hkeyword,
      if_true, List.tail_cons, Inner.term, hread, run_pure]

/-- The tables are read. -/
lemma sources_read (inner : Inner) (hreserved : r.reserved.IsComplete) {ts : List Token}
    {tables : List Expr} (h : IsClause ["FROM"] (IsTable r.reserved) ts tables) {ls : List Located}
    (hls : ls.map Located.token = ts) (htidy : Tidy (ls ++ rest))
    (hrest : (front rest).token ∈ kw "WHERE" :: selectEnds) :
    (front (ls ++ rest)).token ∈ kw "FROM" :: kw "WHERE" :: selectEnds ∧
      ∃ from' items, keyword "FROM" ansi (ls ++ rest) = .ok from' ∧
        (if from'.1 then commaSeparated (fromItem inner) else pure []) ansi from'.2 =
          .ok (items, rest) ∧ List.Forall₂ (LowersTable r) items tables := by
  have hends : ∀ t ∈ kw "WHERE" :: selectEnds, t ∈ tableEnds ∧ t ≠ .sign "," ∧
      t.isKeyword "FROM" = false := by decide
  obtain ⟨hend, hcomma, hfrom⟩ := hends _ hrest
  cases h with
  | absent =>
    obtain rfl : ls = [] := by simpa using hls
    refine ⟨List.mem_cons_of_mem _ hrest, (false, rest), [], ?_, rfl, .nil⟩
    rw [List.nil_append, run_keyword, hfrom]
    rfl
  | present h =>
    obtain ⟨l, ls, rfl, hl, hls⟩ := List.map_eq_cons_iff.mp hls
    obtain ⟨items, hread, hlowers⟩ :=
      h.read (by decide) (fun _ _ h _ _ hls _ hrest => h.read hreserved hls hrest) hls htidy.tail
        hend hcomma
    refine ⟨by simp [hl], (true, ls ++ rest), items, ?_, hread, hlowers⟩
    rw [run_keyword, List.cons_append, front_cons, hl]
    rfl

/-- Neither `ALL` nor `DISTINCT` comes before the columns. -/
lemma distinctness_none {ls : List Located}
    (h : (front ls).token.isOneOf ["ALL", "DISTINCT", "TOP"] = false) :
    distinctness inner ansi ls = .ok (none, ls) := by
  have hall : (front ls).token.isKeyword "ALL" = false := isKeyword_of_not_isOneOf h (by decide)
  have hdistinct : (front ls).token.isKeyword "DISTINCT" = false :=
    isKeyword_of_not_isOneOf h (by decide)
  simp only [distinctness, run_bind, run_peek, run_keyword, hall, hdistinct, Bool.false_eq_true,
    if_false, run_pure]

lemma grouping_none (h : (front rest).token ∈ selectEnds) :
    grouping inner ansi rest = .ok (.absent, rest) := by
  have hgroup : ∀ t ∈ selectEnds, t.isKeyword "GROUP" = false := by decide
  simp only [grouping, run_bind, run_keywords_of_not (hgroup _ h), Bool.false_eq_true, if_false,
    run_pure]

lemma termsBy_none (word : String) (h : (front rest).token.isKeyword word = false) :
    termsBy inner word ansi rest = .ok ([], rest) := by
  simp only [termsBy, run_bind, run_keywords_of_not h, Bool.false_eq_true, if_false, run_pure]

lemma connectBy_none (h : (front rest).token ∈ selectEnds) :
    connectBy inner ansi rest = .ok (none, rest) := by
  have hwords : ∀ t ∈ selectEnds, t.isKeyword "CONNECT" = false ∧
      t.isOneOf ["START", "CONNECT"] = false := by decide
  obtain ⟨hconnect, hstart⟩ := hwords _ h
  have hansi : ansi.dialect.isOneOf [.ansi] = true := rfl
  simp only [connectBy, run_bind, run_onlyIn, hansi, if_true, run_keywords_of_not hconnect,
    Bool.false_eq_true, if_false, run_peek, run_pure, hstart]

/-- What is read of a select when it has nothing but columns, tables and a filter. -/
lemma select_read {l : Located} {cs fs ws : List Located} {items : List SelectItem}
    {from' : Bool × List Located} {sources : List FromItem} {filter : Option Term}
    (hl : l.token = kw "SELECT")
    (hfirst : (front cs).token.isOneOf ["ALL", "DISTINCT", "TOP"] = false)
    (hitems : commaSeparated (selectItem inner) ansi cs = .ok (items, fs))
    (hinto : (front fs).token.isKeyword "INTO" = false)
    (hfrom : keyword "FROM" ansi fs = .ok from')
    (hsources : (if from'.1 then commaSeparated (fromItem inner) else pure []) ansi from'.2 =
      .ok (sources, ws))
    (hwhere : (front ws).token ∈ kw "WHERE" :: selectEnds)
    (hfilter : afterKeyword "WHERE" inner.term ansi ws = .ok (filter, rest))
    (hrest : (front rest).token ∈ selectEnds) :
    select inner ansi (l :: cs) =
      .ok ({ place := l.place, items, sources, filter }, rest) := by
  have hselect : expectKeyword "SELECT" ansi (l :: cs) = .ok ((), cs) := by
    rw [run_expectKeyword, front_cons, hl]
    rfl
  have htop : (front cs).token.isKeyword "TOP" = false :=
    isKeyword_of_not_isOneOf hfirst (by decide)
  have hlater : ∀ t ∈ kw "WHERE" :: selectEnds,
      t.isKeyword "LATERAL" = false ∧ t.isKeyword "PREWHERE" = false := by decide
  obtain ⟨hlateral, hprewhere⟩ := hlater _ hwhere
  have hprefilter : (if ansi.dialect.isOneOf [.ansi] then afterKeyword "PREWHERE" inner.termText
      else pure none) ansi ws = .ok (none, ws) := run_afterKeyword_of_not hprewhere
  have hviews : many (keywords ["LATERAL", "VIEW"]) (lateralView inner) ansi ws = .ok ([], ws) :=
    run_many_of_not (run_keywords_of_not hlateral)
  have hkeyword (word : String) (hw : ∀ t ∈ selectEnds, t.isKeyword word = false) :
      (front rest).token.isKeyword word = false := hw _ hrest
  have hwindow : (front rest).token.isKeyword "WINDOW" = false := hkeyword _ (by decide)
  have hearly : namedWindows inner ansi rest = .ok ([], rest) := by
    simp only [namedWindows, run_bind, run_keyword, hwindow, Bool.false_eq_true, if_false,
      run_pure]
  rw [select, run_after run_peek, front_cons, run_after hselect,
    run_after (distinctness_none hfirst), run_after (run_afterKeyword_of_not htop),
    run_after hitems, run_after (run_afterKeyword_of_not hinto), run_after hfrom]
  refine (run_after_if hsources).trans ?_
  rw [run_after hviews, run_after (run_dialectIn _)]
  refine (run_after_if hprefilter).trans ?_
  rw [run_after hfilter, run_after (grouping_none hrest),
    run_after (termsBy_none "CLUSTER" (hkeyword _ (by decide))),
    run_after (termsBy_none "DISTRIBUTE" (hkeyword _ (by decide))),
    run_after (termsBy_none "SORT" (hkeyword _ (by decide))),
    run_after (run_afterKeyword_of_not (hkeyword "HAVING" (by decide))),
    run_after (run_peekKeyword _), run_after hearly,
    run_after (run_afterKeyword_of_not (hkeyword "QUALIFY" (by decide))), hwindow]
  exact run_after (connectBy_none hrest)

/-- The select says these things, and nothing else. -/
structure LowersSelect (r : Reading) (s : Select) (columns tables : List Expr)
    (filter : Option Expr) : Prop where
  columns : List.Forall₂ (LowersColumn r) s.items columns
  tables : List.Forall₂ (LowersTable r) s.sources tables
  filter : Option.Rel r.Lowers s.filter filter
  alone : r.checkSelect s = .ok ()

/-- **Selects.** -/
lemma IsSelect.read (hreserved : r.reserved.IsComplete) (hin : ReadsInside r inner level)
    {ts : List Token} {columns tables : List Expr} {filter : Option Expr}
    (h : IsSelect r.reserved level ts columns tables filter) {ls : List Located}
    (hls : ls.map Located.token = ts) (htidy : Tidy (ls ++ rest))
    (hrest : (front rest).token ∈ selectEnds) :
    ∃ s, select inner ansi (ls ++ rest) = .ok (s, rest) ∧
      LowersSelect r s columns tables filter := by
  obtain ⟨hcolumns, htables, hfilter⟩ := h
  obtain ⟨l, more, rfl, hl, hmore⟩ := List.map_eq_cons_iff.mp hls
  obtain ⟨cs, more, rfl, hcs, hmore⟩ := List.map_eq_append_iff.mp hmore
  obtain ⟨fs, ws, rfl, hfs, hws⟩ := List.map_eq_append_iff.mp hmore
  have hspread : l :: (cs ++ (fs ++ ws)) ++ rest = l :: (cs ++ (fs ++ (ws ++ rest))) := by simp
  rw [hspread] at htidy ⊢
  obtain ⟨hwhere, found, hfound, hfilter⟩ := hfilter.read hin hws htidy.tail.right.right hrest
  obtain ⟨hfrom, from', sources, hkeyword, hsources, htables⟩ :=
    sources_read inner hreserved htables hfs htidy.tail.right hwhere
  have hends : ∀ t ∈ kw "FROM" :: kw "WHERE" :: selectEnds, t ∈ columnEnds ∧ t ≠ .sign "," ∧
      t.isKeyword "INTO" = false := by decide
  obtain ⟨hend, hcomma, hinto⟩ := hends _ hfrom
  obtain ⟨items, hitems, hcolumns'⟩ := hcolumns.read (by decide)
    (fun _ _ h _ _ hls htidy hrest => h.read hreserved hin hls htidy hrest) hcs htidy.tail hend hcomma
  obtain ⟨t, ts, rfl, hfirst⟩ := hcolumns.first fun _ _ h => h.first hreserved hin
  obtain ⟨l', cs, rfl, rfl, -⟩ := List.map_eq_cons_iff.mp hcs
  have hread := select_read hl (by simpa using hfirst) hitems hinto hkeyword hsources hwhere hfound hrest
  exact ⟨_, hread, hcolumns', htables, hfilter, rfl⟩

end Selects

/-! ### Queries -/

section Queries

variable {r : Reading} {inner : Inner} {rest : List Located}

/-- The query says what the outline says, and nothing else. -/
structure LowersQuery (r : Reading) (q : QueryTree) (o : Outline) : Prop where
  alone : r.checkQuery q = .ok ()
  body : ∃ s, q.body = .select s ∧ LowersSelect r s o.columns o.tables o.filter
  sorting : match q.sorting with
    | none => o.ordering = []
    | some sorting => sorting.interpolate = none ∧
        List.Forall₂ (LowersCriterion r) sorting.terms o.ordering

/-- Nothing is combined with a select. -/
lemma body_read {l : Located} {ls : List Located} {s : Select} (hl : l.token = kw "SELECT")
    (h : select inner ansi (l :: ls) = .ok (s, rest)) (hrest : (front rest).token ∈ selectEnds) :
    body inner ansi (l :: ls) = .ok (.select s, rest) := by
  have hselect : (kw "SELECT").isKeyword "SELECT" = true := rfl
  have hends : ∀ t ∈ selectEnds, setOperators.lookup (t.keyword?.getD "") = none := by decide
  have hsimple : simpleBody inner ansi (l :: ls) = .ok (.select s, rest) := by
    simp only [simpleBody, run_bind, run_peekKeyword, front_cons, hl, hselect, if_true, h, run_pure]
  have hcombined (bound : Nat) (right : Nat → Parser QueryBody) :
      repeatedly (combined bound right) (.select s) ansi rest = .ok (.select s, rest) :=
    run_repeatedly_of_none (by simp only [combined, run_bind, run_peek, hends _ hrest, run_pure])
  simp only [body, run_bind, run_remaining, List.length_cons, bodyWithin, hsimple, hcombined]

lemma sorting_read (hreserved : r.reserved.IsComplete) (depth : Nat) {ts : List Token}
    {ordering : List SortItem} (h : IsClause ["ORDER", "BY"] (IsCriterion r.reserved) ts ordering)
    {ls : List Located} (hls : ls.map Located.token = ts) (htidy : Tidy ls) :
    (front ls).token ∈ selectEnds ∧
      ∃ sorting, optionalSorting (level (depth + 1)) ansi ls = .ok (sorting, []) ∧
        match sorting with
        | none => ordering = []
        | some sorting => sorting.interpolate = none ∧
            List.Forall₂ (LowersCriterion r) sorting.terms ordering := by
  cases h with
  | absent =>
    obtain rfl : ls = [] := by simpa using hls
    exact ⟨by decide, none, rfl, rfl⟩
  | present h =>
    obtain ⟨order, more, rfl, horder, hmore⟩ := List.map_eq_cons_iff.mp hls
    obtain ⟨by', ls, rfl, hby, hls⟩ := List.map_eq_cons_iff.mp hmore
    have hnil : Tidy (ls ++ []) := by simpa using htidy.tail.tail
    obtain ⟨terms, hterms, hlowers⟩ := h.read (by decide)
      (fun _ _ h _ _ hls htidy hrest => h.read hreserved depth hls htidy hrest) hls hnil
      (by decide) (by decide)
    have hkeywords : (kw "ORDER").isKeyword "ORDER" = true ∧ (kw "BY").isKeyword "BY" = true :=
      ⟨rfl, rfl⟩
    have hwords : keywords ["ORDER", "BY"] ansi (order :: by' :: ls) = .ok (true, ls) := by
      simp [keywords, horder, hby, hkeywords]
    have hnone : interpolations (level (depth + 1)) ansi [] = .ok (none, []) := rfl
    rw [List.append_nil] at hterms
    refine ⟨by simp [horder, selectEnds], some { terms, interpolate := none }, ?_, rfl, hlowers⟩
    simp only [optionalSorting, run_bind, hwords, if_true, sortTerms, hterms, hnone, run_pure]

/-- **Queries.** -/
lemma IsStatement.query_read (hreserved : r.reserved.IsComplete) {depth : Nat} {terms : Level}
    (hin : ReadsInside r (level (depth + 1)) terms) {ts : List Token} {o : Outline}
    (h : IsStatement r.reserved terms ts o) {ls : List Located}
    (hls : ls.map Located.token = ts) (htidy : Tidy ls) :
    (front ls).token = kw "SELECT" ∧
      ∃ q, query (level (depth + 1)) ansi ls = .ok (q, []) ∧ LowersQuery r q o := by
  obtain ⟨hselect, hordering⟩ := h
  obtain ⟨ss, os, rfl, hss, hos⟩ := List.map_eq_append_iff.mp hls
  obtain ⟨hrest, sorting, hsorting, hcriteria⟩ :=
    sorting_read hreserved depth hordering hos htidy.right
  obtain ⟨s, hs, hlowers⟩ :=
    hselect.read hreserved hin hss htidy hrest
  obtain ⟨l, ss, rfl, hl⟩ : ∃ l ss', ss = l :: ss' ∧ l.token = kw "SELECT" := by
    cases hselect with
    | mk _ _ _ =>
      obtain ⟨l, ss, rfl, hl, -⟩ := List.map_eq_cons_iff.mp hss
      exact ⟨l, ss, rfl, hl⟩
  refine ⟨hl, { body := .select s, sorting }, ?_, rfl, ⟨s, rfl, hlowers⟩, hcriteria⟩
  have hwords : (kw "SELECT").isKeyword "WITH" = false ∧ (kw "SELECT").isKeyword "INSERT" = false ∧
      (kw "SELECT").isKeyword "UPDATE" = false := ⟨rfl, rfl, rfl⟩
  rw [List.cons_append] at hs ⊢
  have hbody := body_read hl hs hrest
  simp only [query, withTables, run_bind, run_keyword, front_cons, hl, hwords, Bool.false_eq_true,
    if_false, run_pure, hbody, hsorting]
  rfl

/-! ### Statements -/

/-- A query is a statement, two levels further inside. -/
lemma statement_read (depth : Nat) {ls : List Located} {q : QueryTree}
    (hselect : (front ls).token = kw "SELECT") (h : query (level depth) ansi ls = .ok (q, [])) :
    statement (depth + 2) ansi ls = .ok (.query q, []) := by
  have hown : ownStatement (level (depth + 1)) ansi ls = .ok (none, ls) := rfl
  have hword : ["SELECT", "WITH", "VALUES"].contains (((kw "SELECT").keyword?).getD "") = true := rfl
  have hinner : (level (depth + 1)).query = query (level depth) := rfl
  simp only [statement, run_bind, hown, sharedStatement, run_peek, hselect, hword, Bool.true_or,
    if_true, hinner, h, run_pure]

/-- Nothing but the one statement is there. -/
lemma statementList_read {nested : Parser StatementTree} {ls : List Located} {tree : StatementTree}
    (hselect : (front ls).token = kw "SELECT") (h : nested ansi ls = .ok (tree, [])) :
    statementList nested ansi ls = .ok ([tree], []) := by
  have hsign : sign ";" ansi ls = .ok (false, ls) := by
    rw [run_sign, hselect]
    rfl
  have hlength : ([] : List Located).length < ls.length := by
    cases ls with
    | nil => cases hselect
    | cons l ls => simp
  have hfirst : nextStatement nested {} ansi ls =
      .ok (some { found := [tree], needsSemicolon := true }, []) := by
    have hfinish : (kw "SELECT" == Token.finish) = false := rfl
    simp only [nextStatement, run_bind, run_many_of_not hsign, run_peek, hselect, hfinish,
      Bool.false_and, Bool.false_eq_true, if_false, h, run_pure]
  have hlast : nextStatement nested { found := [tree], needsSemicolon := true } ansi [] =
      .ok (none, []) := rfl
  simp only [statementList, run_bind, (Runs.more hfirst hlength (.done hlast)).repeatedly]
  rfl

/-- **Statements.** -/
lemma IsStatement.read (hreserved : r.reserved.IsComplete) {depth : Nat} {terms : Level}
    (hin : ReadsInside r (level (depth + 1)) terms) {ts : List Token} {o : Outline}
    (h : IsStatement r.reserved terms ts o) {ls : List Located}
    (hls : ls.map Located.token = ts) (htidy : Tidy ls) (hdepth : depth + 3 = depthLimit) :
    ∃ q, statements ansi ls = .ok ([.query q], []) ∧ LowersQuery r q o := by
  obtain ⟨hselect, q, hquery, hlowers⟩ := h.query_read hreserved hin hls htidy
  have hstatement := statement_read (depth + 1) hselect hquery
  rw [hdepth] at hstatement
  exact ⟨q, statementList_read hselect hstatement, hlowers⟩

end Queries

/-! ### Parts -/

/-- The parts of a statement say what the outline says, wherever they stand. -/
structure Outline.SaidBy (o : Outline) (parts : Fragments) : Prop where
  columns : (parts.columns.getD []).map Expr.bare = o.columns
  tables : (parts.tables.getD []).map Expr.bare = o.tables
  filter : (parts.clauses.bind Clauses.filter).map Expr.bare = o.filter
  ordering : ((parts.clauses.map Clauses.ordering).getD []).map
    (fun item => { item with position := none }) = o.ordering

section Parts

variable {r : Reading}

lemma mapM_bare {α : Type} {f : α → Except Diagnostic Expr} {as : List α} {es : List Expr}
    (h : List.Forall₂ (fun a e => ∃ w, f a = .ok w ∧ w.bare = e) as es) :
    ∃ ws, as.mapM f = .ok ws ∧ ws.map Expr.bare = es := by
  induction h with
  | nil => exact ⟨[], rfl, rfl⟩
  | cons h _ ih =>
    obtain ⟨w, hw, rfl⟩ := h
    obtain ⟨ws, hws, rfl⟩ := ih
    exact ⟨w :: ws, by simp [hw, hws, bind, Except.bind, pure, Except.pure], rfl⟩

lemma sortItems_ok (order : Nat) (offsets : List Nat) {terms : List SortTerm}
    {ordering : List SortItem} (h : List.Forall₂ (LowersCriterion r) terms ordering) :
    ∃ items, r.sortItems order offsets terms = .ok items ∧
      items.map (fun item => { item with position := none }) = ordering := by
  induction h generalizing offsets with
  | nil => exact ⟨[], rfl, rfl⟩
  | cons h _ ih =>
    obtain ⟨item, hitem, rfl⟩ := h order offsets.head?
    obtain ⟨items, hitems, rfl⟩ := ih offsets.tail
    exact ⟨item :: items,
      by simp [sortItems, hitem, hitems, bind, Except.bind, pure, Except.pure], rfl⟩

lemma filter_ok {t : Option Term} {e : Option Expr} (h : Option.Rel r.Lowers t e) (select : Nat) :
    ∃ w, t.mapM (r.expr select) = .ok w ∧ w.map Expr.bare = e := by
  cases h with
  | none => exact ⟨none, rfl, rfl⟩
  | some h =>
    obtain ⟨w, hw, rfl⟩ := h select
    exact ⟨some w, by simp [hw, Functor.map, Except.map], rfl⟩

lemma LowersQuery.ordering_ok {q : QueryTree} {o : Outline} (h : LowersQuery r q o) (select : Nat) :
    ∃ items, r.ordering select q.sorting = .ok items ∧
      items.map (fun item => { item with position := none }) = o.ordering := by
  have hsorting := h.sorting
  cases hq : q.sorting with
  | none =>
    rw [hq] at hsorting
    exact ⟨[], rfl, hsorting.symm⟩
  | some sorting =>
    rw [hq] at hsorting
    obtain ⟨hnone, hlowers⟩ := hsorting
    simp only [Reading.ordering, hnone, Option.isSome_none, Bool.false_eq_true, if_false]
    exact sortItems_ok _ _ hlowers

/-- The parts of a query say what it stands for. -/
lemma LowersQuery.parts_ok {q : QueryTree} {o : Outline} (h : LowersQuery r q o) :
    ∃ parts, r.fragments q = .ok parts ∧ o.SaidBy parts := by
  obtain ⟨s, hbody, hs⟩ := h.body
  let start := (r.text.offset? s.place).getD 0
  obtain ⟨columns, hcolumns, hcolumns'⟩ := mapM_bare (hs.columns.imp fun _ _ h => h start)
  obtain ⟨tables, htables, htables'⟩ := mapM_bare (hs.tables.imp fun _ _ h => h start)
  obtain ⟨filter, hfilter, hfilter'⟩ := filter_ok hs.filter start
  obtain ⟨ordering, hordering, hordering'⟩ := h.ordering_ok start
  refine ⟨{ columns := some columns
            tables := if tables.isEmpty then none else some tables
            clauses :=
              if filter.isNone && ordering.isEmpty then none else some { filter, ordering } }, ?_, ?_⟩
  · simp only [fragments, h.alone, hbody, onlySelect, hs.alone, bind, Except.bind]
    simp only [start] at hcolumns htables hfilter hordering
    simp only [hcolumns, htables, hfilter, hordering]
    rfl
  · refine ⟨hcolumns', ?_, ?_, ?_⟩
    · cases tables <;> exact htables'
    · cases filter <;> cases ordering <;> exact hfilter'
    · cases filter <;> cases ordering <;> exact hordering'

end Parts

end SelectBinding.Sql.Grammar
