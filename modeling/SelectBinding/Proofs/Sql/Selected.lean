import SelectBinding.Proofs.Sql.Criteria

/-!
What a query about a select is read from.

In a text whose first statement is such a query, the tokens of the select stand together, and behind
them, if there is a sorting, the words `ORDER BY` and its criteria.
-/

namespace SelectBinding.Sql

namespace Grammar

open Sql.Parser

variable {inner : Inner} {c : Context} {ls rest : List Located}

/-- What holds of all that is read holds of what was read. -/
lemma holds_of_yields {α : Type} {p : Parser α} {a : α} (such : α → Prop)
    (hrun : p c ls = .ok (a, rest)) (h : Yields everywhere p such) : such a :=
  h c ls a rest (fun _ _ => trivial) hrun

/-! ### Reading a query -/

lemma simpleBody_select {body : QueryBody} {s : Select} (hs : body = .select s)
    (h : simpleBody inner c ls = .ok (body, rest)) : select inner c ls = .ok (s, rest) := by
  obtain ⟨here, left, hpeek, hbody⟩ := bind_ok h
  rw [run_peekKeyword] at hpeek
  cases hpeek
  rw [run_ite] at hbody
  split at hbody
  · obtain ⟨found, left, hselect, hfound⟩ := bind_ok hbody
    cases hfound
    cases hs
    exact hselect
  · refine absurd hs (holds_of_yields (· ≠ .select s) hbody ?_)
    exact .seq fun _ => .ite (.seq fun _ => .pure nofun) <| .seq fun _ =>
      .ite (.seq fun _ => .seq fun _ => .pure nofun) <| .seq fun _ =>
      .ite (.seq fun _ => .pure nofun) (.seq fun _ => .expected)

/-- What is combined of others is no select, so a select is read alone. -/
lemma combined_select {bound : Nat} {right : Nat → Parser QueryBody} {left : QueryBody} {s : Select}
    {first : QueryBody} {used : List Located}
    (h : left = .select s → first = .select s ∧ used = []) :
    Spends (combined bound right left) fun more next =>
      next.getD left = .select s → first = .select s ∧ used ++ more = [] := by
  have hstay : Spends (pure none : Parser (Option QueryBody)) fun more next =>
      next.getD left = .select s → first = .select s ∧ used ++ more = [] :=
    .pure (by simpa using h)
  refine .after (.look _) fun t => ?_
  extract_lets word
  split
  · exact hstay
  · have hoperation (binding : Nat) : Yields everywhere (do
        let _ ← next
        let quantifier ← setQuantifier
        let right ← right binding
        return some (.operation word (left.text ++ " " ++ word ++ quantifier ++ " " ++ right.text)))
          fun next => next.getD left ≠ .select s :=
      .seq fun _ => .seq fun _ => .seq fun _ => .pure nofun
    exact .ite hstay (.of_yields (hoperation _) fun _ _ hne heq => absurd heq hne)

lemma bodyWithin_select {depth bound : Nat} {s : Select}
    (h : bodyWithin inner depth bound c ls = .ok (.select s, rest)) :
    select inner c ls = .ok (s, rest) := by
  cases depth with
  | zero =>
    obtain ⟨first, left, hfirst, hmore⟩ := bind_ok h
    cases hmore
    exact simpleBody_select rfl hfirst
  | succ depth =>
    obtain ⟨first, left, hfirst, hmore⟩ := bind_ok h
    have hcombined : Spends (repeatedly (combined bound (bodyWithin inner depth)) first)
        fun used body => body = .select s → first = .select s ∧ used = [] :=
      .repeatedly (fun _ _ => combined_select) fun h => ⟨h, rfl⟩
    obtain ⟨used, rfl, hused⟩ := hcombined.split hmore
    obtain ⟨rfl, rfl⟩ := hused rfl
    exact simpleBody_select rfl hfirst

lemma withTables_idle : Spends (withTables inner) fun used found => found = none → used = [] := by
  refine (Spends.keyword "WITH").bind fun used there hthere => ?_
  rcases hthere with ⟨rfl, -⟩ | ⟨rfl, rfl⟩
  · exact .of_yields (.seq fun _ => .seq fun _ => .pure (Option.some_ne_none _))
      fun _ _ hsome hnone => absurd hnone hsome
  · exact .pure fun _ => rfl

/-- A query about a select is that select and the sorting behind it, whatever comes after them. -/
lemma query_select {q : QueryTree} {s : Select} (hwith : q.withTables = none)
    (hbody : q.body = .select s) (h : query inner c ls = .ok (q, rest)) :
    ∃ mid after, select inner c ls = .ok (s, mid) ∧
      optionalSorting inner c mid = .ok (q.sorting, after) := by
  obtain ⟨found, left, hfound, hinsert⟩ := bind_ok h
  obtain ⟨inserts, behind, hinserts, hupdate⟩ := bind_ok hinsert
  obtain ⟨used, rfl, hfree⟩ := withTables_idle.split hfound
  obtain ⟨used', rfl, hused'⟩ := (Spends.keyword "INSERT").split hinserts
  rcases hused' with ⟨rfl, -⟩ | ⟨rfl, rfl⟩
  · exact absurd hbody (holds_of_yields (·.body ≠ .select s) hupdate (.seq fun _ => .pure nofun))
  obtain ⟨updates, behind, hupdates, hquery⟩ := bind_ok hupdate
  obtain ⟨used', rfl, hused'⟩ := (Spends.keyword "UPDATE").split hupdates
  rcases hused' with ⟨rfl, -⟩ | ⟨rfl, rfl⟩
  · exact absurd hbody (holds_of_yields (·.body ≠ .select s) hquery (.seq fun _ => .pure nofun))
  obtain ⟨about, mid, habout, hclauses⟩ := bind_ok hquery
  obtain ⟨sorting, after, hsorting, hmore⟩ := bind_ok hclauses
  let Kept (q : QueryTree) : Prop := q.withTables = found ∧ q.body = about ∧ q.sorting = sorting
  have hq : Kept q := by
    refine holds_of_yields Kept hmore (.seq fun _ => .seq fun _ => ?_)
    extract_lets -underBinder last
    have hlast (limitBy : List String) : Yields everywhere (last limitBy) Kept :=
      .seq fun _ => .seq fun _ => .seq fun _ => .seq fun _ => .pure ⟨rfl, rfl, rfl⟩
    exact .ite (.seq fun _ => hlast _) (.seq fun _ => hlast _)
  obtain ⟨rfl, rfl, rfl⟩ := hq
  obtain rfl := hfree hwith
  rw [hbody] at habout
  obtain ⟨depth, left, hdepth, hwithin⟩ := bind_ok habout
  cases hdepth
  exact ⟨mid, after, bodyWithin_select hwithin, hsorting⟩

/-- A sorting is the words `ORDER BY` and, behind them, its criteria. -/
lemma optionalSorting_some {sorting : Sorting}
    (h : optionalSorting inner c ls = .ok (some sorting, rest)) :
    ∃ order by_ list criteria after, ls = order :: by_ :: list ∧
      order.token.isKeyword "ORDER" = true ∧ by_.token.isKeyword "BY" = true ∧
      ReadsItems c (sortTerm inner) list criteria after ∧
      criteria.map Prod.snd = sorting.terms := by
  obtain ⟨there, left, hwords, hterms⟩ := bind_ok h
  obtain ⟨used, rfl, hused⟩ := (Spends.keywords _).split hwords
  rcases hused with ⟨rfl, hused⟩ | ⟨rfl, rfl⟩
  · obtain ⟨order, others, horder, hothers, rfl⟩ := List.forall₂_cons_right_iff.mp hused
    obtain ⟨by_, others, hby, hnone, rfl⟩ := List.forall₂_cons_right_iff.mp hothers
    obtain rfl := List.forall₂_nil_right_iff.mp hnone
    obtain ⟨terms, after, hlist, hinterpolate⟩ := bind_ok hterms
    obtain ⟨interpolate, last, -, hfound⟩ := bind_ok hinterpolate
    cases hfound
    obtain ⟨criteria, hlisted, hmap⟩ := commaSeparated_items hlist
    exact ⟨order, by_, left, criteria, after, rfl, horder, hby, hlisted, hmap⟩
  · cases hterms

/-- A select begins with the word whose place it keeps. -/
lemma select_first {s : Select} (h : select inner c ls = .ok (s, rest)) :
    ∃ first more, ls = first :: more ++ rest ∧ s.place = first.place := by
  obtain ⟨first, left, hfirst, hkeyword⟩ := bind_ok h
  rw [run_peek] at hfirst
  cases hfirst
  obtain ⟨_, left, hleft, hclauses⟩ := bind_ok hkeyword
  rw [run_expectKeyword] at hleft
  split at hleft
  next hselect =>
    cases hleft
    cases ls with
    | nil => cases hselect
    | cons first behind =>
      obtain ⟨more, hmore⟩ := Parser.rest_suffix _ hclauses
      refine ⟨first, more, by rw [List.cons_append, hmore]; rfl, ?_⟩
      refine holds_of_yields (·.place = first.place) hclauses ?_
      refine .seq fun _ => .seq fun _ => .seq fun _ => .seq fun _ => .seq fun _ => ?_
      extract_lets -underBinder afterSources
      have hsources (sources : List FromItem) :
          Yields everywhere (afterSources sources) (·.place = first.place) := by
        refine .seq fun _ => .seq fun _ => ?_
        extract_lets -underBinder afterPrewhere
        have hprewhere (prewhere : Option String) :
            Yields everywhere (afterPrewhere prewhere) (·.place = first.place) := by
          refine .seq fun _ => .seq fun _ => .seq fun _ => .seq fun _ => .seq fun _ => .seq fun _ =>
            .seq fun _ => .seq fun _ => .seq fun _ => ?_
          extract_lets -underBinder last
          have hlast (late : List String) :
              Yields everywhere (last late) (·.place = first.place) := .seq fun _ => .pure rfl
          exact .ite (.seq fun _ => hlast _) (.ite (.seq fun _ => hlast _) (.seq fun _ => hlast _))
        exact .ite (.seq fun _ => hprewhere _) (.seq fun _ => hprewhere _)
      exact .ite (.seq fun _ => hsources _) (.seq fun _ => hsources _)
  · cases hleft

/-! ### Statements -/

lemma ownStatement_idle :
    Spends (ownStatement inner) fun used found => found = none → used = [] := by
  refine .after (.look _) fun dialect => ?_
  split
  · refine (Spends.keywords _).bind fun used first hfirst => ?_
    rcases hfirst with ⟨rfl, -⟩ | ⟨rfl, rfl⟩
    · exact .found
    · refine (Spends.keywords _).bind fun more last hlast => ?_
      rcases hlast with ⟨rfl, -⟩ | ⟨rfl, rfl⟩
      · exact .pure nofun
      · exact .pure fun _ => rfl
  · exact .after (.peekKeyword _) fun _ => .ite .found (.pure fun _ => rfl)
  · have hname : Spends enumerationName fun used found => found = none → used = [] :=
      Spends.anything.maybe.mono fun used found h hnone => by simpa [hnone] using h
    refine hname.bind fun used found hused => ?_
    split
    · exact .found
    · exact .pure fun _ => by simpa using hused rfl
  · exact .pure fun _ => rfl

/-- A statement that is a query is one at some level. -/
lemma statement_query {depth : Nat} {q : QueryTree}
    (h : statement depth c ls = .ok (.query q, rest)) :
    ∃ depth, query (level depth) c ls = .ok (q, rest) := by
  cases depth with
  | zero => cases h
  | succ depth =>
    obtain ⟨own, left, hown, hshared⟩ := bind_ok h
    obtain ⟨used, rfl, hidle⟩ := ownStatement_idle.split hown
    cases own with
    | some own => cases hshared
    | none =>
      obtain rfl := hidle rfl
      obtain ⟨t, left', ht, hquery⟩ := bind_ok hshared
      cases ht
      rw [run_ite] at hquery
      split at hquery
      · obtain ⟨found, left, hlevel, hfound⟩ := bind_ok hquery
        cases hfound
        cases depth with
        | zero => cases hlevel
        | succ depth => exact ⟨depth, hlevel⟩
      · refine absurd rfl (holds_of_yields (· ≠ .query q) hquery ?_)
        refine .seq fun _ => .ite (.seq fun _ => .pure nofun) (.seq fun other => ?_)
        split
        · exact .pure nofun
        · exact .expected

/-- A step adds one statement, which is read where it begins. -/
lemma nextStatement_ok {nested : Parser StatementTree} {progress progress' : Progress}
    (h : nextStatement nested progress c ls = .ok (some progress', rest)) :
    ∃ s ls', progress'.found = s :: progress.found ∧ ls' <:+ ls ∧ nested c ls' = .ok (s, rest) := by
  obtain ⟨semicolons, left, hsemicolons, hnext⟩ := bind_ok h
  obtain ⟨t, left', ht, hchoice⟩ := bind_ok hnext
  cases ht
  simp only [run_ite] at hchoice
  split at hchoice
  · cases hchoice
  split at hchoice
  · cases hchoice
  split at hchoice
  · cases hchoice
  obtain ⟨s, left', hs, hadded⟩ := bind_ok hchoice
  cases hadded
  exact ⟨s, left, rfl, Parser.rest_suffix _ hsemicolons, hs⟩

/-- The first statement is read where it begins among the tokens. -/
lemma statementList_first {nested : Parser StatementTree} {first : StatementTree}
    {more : List StatementTree} (h : statementList nested c ls = .ok (first :: more, rest)) :
    ∃ ls' left, ls' <:+ ls ∧ nested c ls' = .ok (first, left) := by
  obtain ⟨progress, left, hrepeated, hreverse⟩ := bind_ok h
  obtain ⟨hfound, -⟩ := Prod.mk.inj (Except.ok.inj hreverse)
  obtain ⟨limit, behind, hlimit, hsteps⟩ := bind_ok hrepeated
  cases hlimit
  obtain ⟨next, left', hnext, hlater⟩ := bind_ok hsteps
  cases next with
  | none =>
    cases hlater
    cases hfound
  | some one =>
    obtain ⟨s, ls', hone, hsuffix, hs⟩ := nextStatement_ok hnext
    -- Every later statement is put before those that were found.
    let Kept (progress : Progress) : Prop := ∃ later, progress.found = later ++ [s]
    have hkept : Kept progress := by
      refine holds_of_yields Kept hlater (.steps (fun progress hprogress => ?_) _ ⟨[], hone⟩)
      intro c ls next rest _ hrun progress' hnext
      obtain rfl := Option.mem_def.mp hnext
      obtain ⟨s', -, hadded, -⟩ := nextStatement_ok hrun
      obtain ⟨later, hlater⟩ := hprogress
      exact ⟨s' :: later, by rw [hadded, hlater]; rfl⟩
    obtain ⟨later, hlater⟩ := hkept
    rw [hlater, List.reverse_append] at hfound
    cases hfound
    exact ⟨ls', left', hsuffix, hs⟩

end Grammar

end SelectBinding.Sql
