import SelectBinding.Proofs.Sql.Selected

/-!
Where the numbers of a sorting are said to stand.

A number has no place of its own in the tree of a statement. It is looked for among the tokens: the
word `ORDER` after `SELECT`, the word `BY` after that, and the items of the list behind it. Clauses
that are dropped may have these words in them as well, and then they are found instead.
-/

namespace SelectBinding.Sql

open Sql.Parser

/-! ### What is accepted -/

namespace Reading

variable {r : Reading}

lemma sortName_number {idents : List Ident} {ascending : Bool} {item : SortItem}
    (h : r.sortName idents ascending = .ok item) : item.number = none := by
  obtain ⟨parts, -, hitem⟩ := Except.bind_eq_ok_iff.mp h
  cases hitem
  rfl

lemma sortNumber_ok {spelling : String} {ascending : Bool} {position : Option Nat} {item : SortItem}
    (h : sortNumber spelling ascending position = .ok item) :
    item.position = position ∧ item.number = Decimal.word64? spelling := by
  unfold sortNumber at h
  split at h
  · next n hn =>
    cases h
    exact ⟨rfl, hn.symm⟩
  · cases h

/-- What is accepted in a sorting is a name or a number. A number is a literal, and it has the place
that was found for it. -/
lemma sortItem_ok {order : Nat} {term : SortTerm} {position : Option Nat} {item : SortItem}
    (h : r.sortItem order term position = .ok item) :
    term.term.IsAtom ∧ ∀ n, item.number = some n → item.position = position ∧
      ∃ spelling long, term.term = .literal (.number spelling long) ∧
        Decimal.word64? spelling = some n := by
  obtain ⟨hnulls, hfill⟩ := sortItem_plain h
  unfold sortItem at h
  rw [hnulls, hfill] at h
  dsimp only at h
  rw [if_neg (by simp)] at h
  split at h
  · next spelling long hterm =>
    obtain ⟨hposition, hnumber⟩ := sortNumber_ok h
    exact ⟨by rw [hterm]; trivial, fun n hn =>
      ⟨hposition, spelling, long, hterm, hnumber.symm.trans hn⟩⟩
  · next ident hterm =>
    exact ⟨by rw [hterm]; trivial, fun n hn => by simp [sortName_number h] at hn⟩
  · next idents hterm =>
    exact ⟨by rw [hterm]; trivial, fun n hn => by simp [sortName_number h] at hn⟩
  · cases h

/-- Every criterion of a sorting that is accepted is a plain name or a plain number. -/
lemma sortItems_accepts {order : Nat} {offsets : List Nat} {terms : List SortTerm}
    {items : List SortItem} (h : r.sortItems order offsets terms = .ok items) :
    ∀ term ∈ terms, term.IsPlain ∧ term.term.IsAtom := by
  intro term hterm
  obtain ⟨position, item, hitem⟩ := sortItems_mem h term hterm
  exact ⟨sortItem_plain hitem, (sortItem_ok hitem).1⟩

/-- The sorting of the parts of a query is what its sorting is read as. -/
lemma fragments_ordering {q : QueryTree} {parts : Fragments} {clauses : Clauses}
    (h : r.fragments q = .ok parts) (hclauses : parts.clauses = some clauses) :
    ∃ s, q.withTables = none ∧ q.body = .select s ∧
      r.ordering ((r.text.offset? s.place).getD 0) q.sorting = .ok clauses.ordering := by
  obtain ⟨_, hquery, h⟩ := Except.bind_eq_ok_iff.mp h
  obtain ⟨s, hbody, h⟩ := Except.bind_eq_ok_iff.mp h
  obtain ⟨_, -, h⟩ := Except.bind_eq_ok_iff.mp h
  obtain ⟨columns, -, h⟩ := Except.bind_eq_ok_iff.mp h
  obtain ⟨tables, -, h⟩ := Except.bind_eq_ok_iff.mp h
  obtain ⟨filter, -, h⟩ := Except.bind_eq_ok_iff.mp h
  obtain ⟨ordering, hordering, h⟩ := Except.bind_eq_ok_iff.mp h
  obtain rfl := Except.ok.inj h
  dsimp only at hclauses
  split at hclauses
  · cases hclauses
  · cases hclauses
    exact ⟨s, (checkQuery_ok_iff.mp hquery).1, onlySelect_ok_iff.mp hbody, hordering⟩

end Reading

/-! ### The tokens of a sorting -/

/-- The tokens of a select and of the sorting behind it, as they are read from a text. -/
structure SortingTokens (dialect : Dialect) (sql : String) (s : Select) (sorting : Sorting) where
  /-- How many levels the select has inside it. -/
  depth : Nat
  before : List Located
  select : List Located
  order : Located
  by_ : Located
  list : List Located
  /-- Each criterion with the tokens that it is read from. -/
  criteria : List (List Located × SortTerm)
  after : List Located
  tokenize : Tokenizer.tokenize dialect sql = .ok (before ++ select ++ order :: by_ :: list)
  reads : Grammar.select (Grammar.level depth) { dialect } (select ++ order :: by_ :: list) =
    .ok (s, order :: by_ :: list)
  isOrder : order.token.isKeyword "ORDER" = true
  isBy : by_.token.isKeyword "BY" = true
  listed : ReadsItems { dialect } (Grammar.sortTerm (Grammar.level depth)) list criteria after
  terms : criteria.map Prod.snd = sorting.terms

/-- The first query of a text, if it is a select with a sorting, is read from such tokens. -/
lemma sortingTokens_of_statementsOf {dialect : Dialect} {sql : String} {q : QueryTree}
    {more : List StatementTree} {s : Select} {sorting : Sorting}
    (h : statementsOf dialect sql = .ok (.query q :: more)) (hwith : q.withTables = none)
    (hbody : q.body = .select s) (hsorting : q.sorting = some sorting) :
    Nonempty (SortingTokens dialect sql s sorting) := by
  obtain ⟨tokens, htokens, hread⟩ := Except.bind_eq_ok_iff.mp h
  split at hread
  · next found rest hstatements =>
    cases hread
    obtain ⟨ls, left, ⟨before, rfl⟩, hfirst⟩ := Grammar.statementList_first hstatements
    obtain ⟨depth, hquery⟩ := Grammar.statement_query hfirst
    obtain ⟨mid, after, hselect, hsorted⟩ := Grammar.query_select hwith hbody hquery
    rw [hsorting] at hsorted
    obtain ⟨order, by_, list, criteria, last, rfl, horder, hby, hlisted, hterms⟩ :=
      Grammar.optionalSorting_some hsorted
    obtain ⟨select, rfl⟩ := Parser.rest_suffix _ hselect
    exact ⟨⟨depth, before, select, order, by_, list, criteria, last, by rw [htokens]; simp, hselect,
      horder, hby, hlisted, hterms⟩⟩
  · cases hread

namespace SortingTokens

variable {dialect : Dialect} {sql : String} {s : Select} {sorting : Sorting}
  (w : SortingTokens dialect sql s sorting)

/-- Whether the words `ORDER BY`, perhaps with others between them, are found in the select. -/
def Misleads : Prop :=
  StatementText.SpellsOrderBy (w.select.map Located.token)

section Entries

open StatementText

/-- A select does not mislead in a text that has the word `ORDER` only once. -/
lemma not_misleads {tokens : List Located} (htokens : Tokenizer.tokenize dialect sql = .ok tokens)
    (hone : tokens.countP (fun t => isBareWord "ORDER" t.token) ≤ 1) : ¬ w.Misleads := by
  rintro ⟨before, order, between, by_, after, hselect, horder, -⟩
  obtain rfl : _ = tokens := Except.ok.inj (w.tokenize.symm.trans htokens)
  obtain ⟨t, ht, htoken⟩ : ∃ t ∈ w.select, t.token = order :=
    List.mem_map.mp (hselect ▸ by simp)
  have hinside : 0 < w.select.countP fun t => isBareWord "ORDER" t.token :=
    List.countP_pos_iff.mpr ⟨t, ht, htoken ▸ horder⟩
  rw [List.countP_append, List.countP_append,
    List.countP_cons_of_pos (by simpa using isBareWord_order w.isOrder)] at hone
  omega

lemma entries : (of dialect sql).tokens =
    w.before.map (of dialect sql).entry ++ w.select.map (of dialect sql).entry ++
      (of dialect sql).entry w.order :: (of dialect sql).entry w.by_ ::
        w.list.map (of dialect sql).entry := by
  rw [tokens_of w.tokenize]
  simp

/-- The select starts behind what comes before it, and nothing of it stands before its start. -/
lemma start_select {start : Nat} (hstart : start = ((of dialect sql).offset? s.place).getD 0) :
    (∀ e ∈ w.before.map (of dialect sql).entry, e.2 < start) ∧
      (∀ e ∈ w.select.map (of dialect sql).entry, start ≤ e.2) ∧
      start ≤ ((of dialect sql).entry w.order).2 := by
  obtain ⟨first, more, hselect, hplace⟩ := Grammar.select_first w.reads
  rw [hplace] at hstart
  have hfirst : ((of dialect sql).entry first).2 = start := hstart.symm
  have hsplit : w.select = first :: more := List.append_cancel_right hselect
  have hordered := ordered_of w.tokenize
  rw [w.entries, hsplit, List.map_cons, List.append_assoc] at hordered
  obtain ⟨-, hselect, hbefore⟩ := List.pairwise_append.mp hordered
  rw [List.cons_append] at hselect hbefore
  have hlater := (List.pairwise_cons.mp hselect).1
  refine ⟨fun e he => ?_, fun e he => ?_, ?_⟩
  · exact hfirst ▸ hbefore e he _ List.mem_cons_self
  · rw [hsplit, List.map_cons] at he
    rcases List.mem_cons.mp he with rfl | he
    · exact hfirst.ge
    · exact hfirst ▸ (hlater e (List.mem_append_left _ he)).le
  · exact hfirst ▸ (hlater _ (List.mem_append_right _ List.mem_cons_self)).le

/-- The criteria stand behind the words before them. -/
lemma order_lt {t : Located} (ht : t ∈ w.list) :
    ((of dialect sql).entry w.order).2 < ((of dialect sql).entry t).2 := by
  have hordered := ordered_of w.tokenize
  rw [w.entries] at hordered
  obtain ⟨-, hlater, -⟩ := List.pairwise_append.mp hordered
  exact (List.pairwise_cons.mp hlater).1 _ (List.mem_cons_of_mem _ (List.mem_map_of_mem ht))

/-- What is accepted of the criteria has no seams, and a number is its first token. -/
lemma criteria_spelled {r : Reading} {order : Nat} {offsets : List Nat} {items : List SortItem}
    (h : r.sortItems order offsets sorting.terms = .ok items) :
    ∀ criterion ∈ w.criteria, ∃ first more, criterion.1 = first :: more ∧ Seamless criterion.1 ∧
      ∀ spelling long, criterion.2.term = .literal (.number spelling long) →
        first.token = .number spelling long := by
  intro criterion hcriterion
  obtain ⟨hplain, hatom⟩ := Reading.sortItems_accepts h criterion.2
    (w.terms ▸ List.mem_map_of_mem hcriterion)
  exact w.listed.spends (Grammar.sortTerm_spends (Grammar.level_spends w.depth 0)) criterion
    hcriterion hplain hatom

/-- The items behind the words `ORDER BY` begin where the criteria do. -/
lemma itemOffsets_getElem? {i : Nat} {first : Located} {more : List Located} {term : SortTerm}
    (hseamless : ∀ criterion ∈ w.criteria, criterion.1 ≠ [] ∧ Seamless criterion.1)
    (h : w.criteria[i]? = some (first :: more, term)) :
    (itemOffsets 0 true (w.list.map (of dialect sql).entry))[i]? =
      some ((of dialect sql).entry first).2 := by
  obtain ⟨tail, htail⟩ := w.listed.itemOffsets hseamless
  have hi : i < w.criteria.length := (List.getElem?_eq_some_iff.mp h).1
  rw [htail, List.getElem?_append_left (by simpa using hi), List.getElem?_map, h]
  rfl

lemma stands {t : Located} (ht : t ∈ w.list) :
    StandsAt dialect sql t ((of dialect sql).entry t).2 :=
  ((standing_of_tokenize w.tokenize).le_entry (by simp [ht])).2

/-- Unless the select misleads, the offsets that are found are those of the items behind the words
`ORDER BY`; if it does, the first of them is before these words. -/
lemma ordering_ok {reserved : Reserved} {start : Nat} {items : List SortItem}
    (hstart : start = ((of dialect sql).offset? s.place).getD 0)
    (h : Reading.ordering ⟨of dialect sql, reserved⟩ start (some sorting) = .ok items) :
    ∃ order offsets,
      Reading.sortItems ⟨of dialect sql, reserved⟩ order offsets sorting.terms = .ok items ∧
      (¬ w.Misleads → offsets = itemOffsets 0 true (w.list.map (of dialect sql).entry)) ∧
      (w.Misleads → ∀ offset ∈ offsets.head?, offset ≤ ((of dialect sql).entry w.order).2) := by
  have hplain : sorting.interpolate = none := (Reading.ordering_plain h sorting rfl).1
  simp only [Reading.ordering, hplain, Option.isSome_none, Bool.false_eq_true, if_false] at h
  obtain ⟨hbefore, hselect, horder⟩ := w.start_select hstart
  have hisOrder : isBareWord "ORDER" w.order.token = true := isBareWord_order w.isOrder
  have hisBy : isBareWord "BY" w.by_.token = true := isBareWord_by w.isBy
  have hmap : (w.select.map (of dialect sql).entry).map Prod.fst = w.select.map Located.token := by
    simp [entry]
  by_cases hmisleads : w.Misleads
  · obtain ⟨o, b, ho, hb, hhead⟩ := orderBy_missed (ordered_of w.tokenize) w.entries hisOrder
      hselect (hmap ▸ hmisleads)
    rw [ho, Option.getD_some, hb] at h
    exact ⟨_, _, h, fun hnot => absurd hmisleads hnot, fun _ => hhead⟩
  · obtain ⟨o, ho, hb⟩ := orderBy_found (ordered_of w.tokenize) w.entries hisOrder hisBy hbefore
      hselect horder (hmap ▸ hmisleads)
    rw [ho, Option.getD_some, hb] at h
    have hsplit : (of dialect sql).tokens =
        (w.before.map (of dialect sql).entry ++ w.select.map (of dialect sql).entry ++
          [(of dialect sql).entry w.order]) ++ (of dialect sql).entry w.by_ ::
            w.list.map (of dialect sql).entry := by simpa using w.entries
    exact ⟨_, _, h, fun _ => listOffsets_eq (ordered_of w.tokenize) hsplit,
      fun hm => absurd hm hmisleads⟩

end Entries

end SortingTokens

namespace Reading

variable {r : Reading}

/-- **Numbers of a sorting.** For every text whose first query is accepted, a criterion that is a
number is a literal of that query, and what is said of its place is where this literal stands,
unless the words `ORDER BY` are found in the select before the sorting. If they are, the first
criterion is not said to stand where it does. -/
theorem number_position {dialect : Dialect} {sql : String} {reserved : Reserved} {q : QueryTree}
    {others : List StatementTree} {parts : Fragments} {clauses : Clauses} {i n : Nat}
    {item : SortItem} (hread : statementsOf dialect sql = .ok (.query q :: others))
    (hparts : fragments ⟨.of dialect sql, reserved⟩ q = .ok parts)
    (hclauses : parts.clauses = some clauses) (hitem : clauses.ordering[i]? = some item)
    (hnumber : item.number = some n) :
    ∃ (s : Select) (sorting : Sorting) (w : SortingTokens dialect sql s sorting) (literal : Located)
      (more : List Located) (term : SortTerm) (spelling : String) (long : Bool) (offset : Nat),
      q.body = .select s ∧ q.sorting = some sorting ∧
      w.criteria[i]? = some (literal :: more, term) ∧
      term.term = .literal (.number spelling long) ∧ Decimal.word64? spelling = some n ∧
      literal.token = .number spelling long ∧
      StatementText.StandsAt dialect sql literal offset ∧
      (¬ w.Misleads → item.position = some offset) ∧
      (w.Misleads → i = 0 → item.position ≠ some offset) := by
  obtain ⟨s, hwith, hbody, hordering⟩ := fragments_ordering hparts hclauses
  cases hsorting : q.sorting with
  | none =>
    rw [hsorting] at hordering
    have hnil : clauses.ordering = [] := (Except.ok.inj hordering).symm
    simp [hnil] at hitem
  | some sorting =>
    rw [hsorting] at hordering
    obtain ⟨w⟩ := sortingTokens_of_statementsOf hread hwith hbody hsorting
    obtain ⟨order, offsets, hitems, hfound, hmissed⟩ := w.ordering_ok rfl hordering
    obtain ⟨hlength, hall⟩ := sortItems_getElem? hitems
    obtain ⟨⟨used, term⟩, hcriterion⟩ : ∃ criterion, w.criteria[i]? = some criterion := by
      have hi : i < clauses.ordering.length := (List.getElem?_eq_some_iff.mp hitem).1
      rw [← hlength, ← w.terms, List.length_map] at hi
      exact ⟨_, List.getElem?_eq_getElem hi⟩
    have hspelled := w.criteria_spelled hitems
    obtain ⟨literal, behind, rfl, -, hliteral⟩ := hspelled _ (List.mem_of_getElem? hcriterion)
    have hterm : sorting.terms[i]? = some term := by
      rw [← w.terms, List.getElem?_map, hcriterion]
      rfl
    obtain ⟨-, hsaid⟩ := sortItem_ok (hall i term item hterm hitem)
    obtain ⟨hposition, spelling, long, hnumbered, hn⟩ := hsaid n hnumber
    have hmem : literal ∈ w.list :=
      w.listed.subset _ (List.mem_of_getElem? hcriterion) List.mem_cons_self
    refine ⟨s, sorting, w, literal, behind, term, spelling, long, _, hbody, rfl, hcriterion,
      hnumbered, hn, hliteral spelling long hnumbered, w.stands hmem, fun hclear => ?_,
      fun hmisleads hfirst heq => ?_⟩
    · have hseamless : ∀ criterion ∈ w.criteria, criterion.1 ≠ [] ∧ Seamless criterion.1 := by
        intro criterion hmem
        obtain ⟨first, more, hused, hseamless, -⟩ := hspelled criterion hmem
        exact ⟨by simp [hused], hseamless⟩
      rw [hposition, hfound hclear, w.itemOffsets_getElem? hseamless hcriterion]
    · -- The first criterion stands behind the word `ORDER`, and what is found does not.
      rw [hfirst, ← List.head?_eq_getElem?] at hposition
      have hle := hmissed hmisleads _ (hposition.symm.trans heq)
      exact absurd (w.order_lt hmem) (Nat.not_lt.mpr hle)

/-- The criterion at an index, where the first of some statements is a query that has parts. -/
def criterion? (r : Reading) (i : Nat) : List StatementTree → Option SortItem
  | .query q :: _ =>
    match r.fragments q with
    | .ok parts => parts.clauses.bind (·.ordering[i]?)
    | .error _ => none
  | _ => none

lemma criterion?_eq_some {i : Nat} {statements : List StatementTree} {item : SortItem}
    (h : r.criterion? i statements = some item) :
    ∃ q others parts clauses, statements = .query q :: others ∧ r.fragments q = .ok parts ∧
      parts.clauses = some clauses ∧ clauses.ordering[i]? = some item := by
  unfold criterion? at h
  split at h
  · split at h
    · next parts hparts =>
      obtain ⟨clauses, hclauses, hitem⟩ := Option.bind_eq_some_iff.mp h
      exact ⟨_, _, parts, clauses, rfl, hparts, hclauses, hitem⟩
    · cases h
  · cases h

theorem number_position_second : ∃ q others parts clauses literal spelling long,
    statementsOf .ansi "SELECT owner FROM accounts ORDER BY owner, 1" = .ok (.query q :: others) ∧
    fragments ⟨.of .ansi "SELECT owner FROM accounts ORDER BY owner, 1", .builtin⟩ q = .ok parts ∧
    parts.clauses = some clauses ∧
    clauses.ordering[1]? = some ⟨["1"], some 1, true, some 43⟩ ∧
    literal.token = .number spelling long ∧
    StatementText.StandsAt .ansi "SELECT owner FROM accounts ORDER BY owner, 1" literal 43 := by
  obtain ⟨statements, hread, hitem⟩ := Except.exists_of_toOption_map
    (x := statementsOf .ansi "SELECT owner FROM accounts ORDER BY owner, 1")
    (f := criterion? ⟨.of .ansi "SELECT owner FROM accounts ORDER BY owner, 1", .builtin⟩ 1)
    (b := some ⟨["1"], some 1, true, some 43⟩) (by decide +kernel)
  obtain ⟨q, others, parts, clauses, rfl, hparts, hclauses, hitem⟩ := criterion?_eq_some hitem
  obtain ⟨s, sorting, w, literal, more, term, spelling, long, offset, -, -, -, -, -, hliteral,
    hstands, hposition, -⟩ := number_position hread hparts hclauses hitem rfl
  obtain ⟨tokens, htokens, hone⟩ := Except.exists_of_toOption_map
    (x := Tokenizer.tokenize .ansi "SELECT owner FROM accounts ORDER BY owner, 1")
    (f := List.countP fun t => StatementText.isBareWord "ORDER" t.token) (b := 1)
    (by decide +kernel)
  cases hposition (w.not_misleads htokens hone.le)
  exact ⟨q, others, parts, clauses, literal, spelling, long, hread, hparts, hclauses, hitem,
    hliteral, hstands⟩

/-- Whether the token is a number. -/
def isNumber : Token → Bool
  | .number _ _ => true
  | _ => false

/-- The words `ORDER BY` of a window that is dropped are taken for those of the sorting: the number
is said to stand where the name in the window does. -/
theorem number_astray : ∃ q others parts clauses,
    statementsOf .ansi "SELECT x FROM tbl1 WINDOW w AS (ORDER BY y) ORDER BY 1" =
      .ok (.query q :: others) ∧
    fragments ⟨.of .ansi "SELECT x FROM tbl1 WINDOW w AS (ORDER BY y) ORDER BY 1", .builtin⟩ q =
      .ok parts ∧
    parts.clauses = some clauses ∧
    clauses.ordering[0]? = some ⟨["1"], some 1, true, some 41⟩ ∧
    (StatementText.of .ansi "SELECT x FROM tbl1 WINDOW w AS (ORDER BY y) ORDER BY 1").tokens.filter
      (fun entry => isNumber entry.1) = [(.number "1" false, 53)] := by
  obtain ⟨statements, hread, hitem⟩ := Except.exists_of_toOption_map
    (x := statementsOf .ansi "SELECT x FROM tbl1 WINDOW w AS (ORDER BY y) ORDER BY 1")
    (f := criterion? ⟨.of .ansi "SELECT x FROM tbl1 WINDOW w AS (ORDER BY y) ORDER BY 1",
      .builtin⟩ 0) (b := some ⟨["1"], some 1, true, some 41⟩) (by decide +kernel)
  obtain ⟨q, others, parts, clauses, rfl, hparts, hclauses, hitem⟩ := criterion?_eq_some hitem
  exact ⟨q, others, parts, clauses, hread, hparts, hclauses, hitem, by decide +kernel⟩

end Reading

end SelectBinding.Sql
