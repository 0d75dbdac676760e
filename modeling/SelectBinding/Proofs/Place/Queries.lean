import SelectBinding.Proofs.Place.Terms
import SelectBinding.Sql.Grammar.Statements

/-!
The names in a query stand where tokens stand.

Only the names that a query may be made of count: those of its items, of its tables and their
aliases, of its filter and of its sorting, and the place of the word `SELECT`.
-/

namespace SelectBinding.Sql

/-- All names of the item, and the place of its asterisk, stand in the region. -/
def SelectItem.Within (G : Region) : SelectItem → Prop
  | .term t => t.Within G
  | .aliased t aliasName => t.Within G ∧ aliasName.Within G
  | .qualifiedWildcard name _ => ∀ ident ∈ name, ident.Within G
  | .wildcard place _ => place ∈ G

/-- The name of a table and its alias stand in the region. -/
def FromFactor.Within (G : Region) (factor : FromFactor) : Prop :=
  (∀ name extras, factor.body = .table name extras → ∀ ident ∈ name, ident.Within G) ∧
    ∀ given ∈ factor.tableAlias, given.name.Within G

/-- What the query is made of stands in the region, as far as it is no other query. There is an
item. -/
structure Select.Within (G : Region) (s : Select) : Prop where
  place : s.place ∈ G
  nonempty : s.items ≠ []
  items : ∀ item ∈ s.items, item.Within G
  sources : ∀ item ∈ s.sources, item.relation.Within G
  filter : ∀ term ∈ s.filter, term.Within G

/-- The select that a query is about and its sorting stand in the region. -/
structure QueryTree.Within (G : Region) (q : QueryTree) : Prop where
  body : ∀ s, q.body = .select s → s.Within G
  sorting : ∀ sorting ∈ q.sorting, ∀ item ∈ sorting.terms, item.term.Within G

namespace Grammar

open Sql.Parser

variable {G : Region} {inner : Inner}

/-! ### Tables -/

lemma tableAlias_within :
    Yields G (tableAlias inner) fun found => ∀ given ∈ found, given.name.Within G := by
  refine optionalAlias_within.bind fun found hfound => ?_
  split
  · exact .seq fun _ => .just (hfound _ rfl)
  · exact .none

/-- A table item that is no table by its name has its alias for its only name. -/
lemma FromFactor.within_of_other {body : FromBody} {given : Option TableAlias}
    (hbody : ∀ name extras, body ≠ .table name extras) (h : ∀ g ∈ given, g.name.Within G) :
    FromFactor.Within G ⟨body, given⟩ :=
  ⟨fun name extras hname => absurd hname (hbody name extras), h⟩

/-- What is read before the alias of a table item that is no table by its name. -/
lemma aliased_within {body : FromBody} (hbody : ∀ name extras, body ≠ .table name extras) :
    Yields G (do return { body, tableAlias := ← tableAlias inner }) (FromFactor.Within G) :=
  tableAlias_within.bind fun _ h => .pure (FromFactor.within_of_other hbody h)

lemma namedTable_within : Yields G (namedTable inner) (FromFactor.Within G) :=
  objectName_within.bind fun name hname => .seq fun extras =>
    tableAlias_within.bind fun given hgiven => .seq fun hints => .pure ⟨by
      rintro _ _ ⟨⟩
      exact hname, hgiven⟩

lemma derivedTable_within {start : String} :
    Yields G (derivedTable inner start) (FromFactor.Within G) :=
  .seq fun _ => .seq fun _ => aliased_within (by simp)

lemma lateral_within : Yields G (lateral inner) (FromFactor.Within G) := by
  refine .seq fun _ => .ite derivedTable_within (.seq fun name => .seq fun _ => .seq fun _ => ?_)
  extract_lets -underBinder rest
  have hrest (list : List Argument) : Yields G (rest list) (FromFactor.Within G) :=
    aliased_within (by simp)
  exact .ite (.seq fun _ => hrest _) (.seq fun _ => .seq fun _ => .seq fun _ => hrest _)

lemma unnested_within : Yields G (unnested inner) (FromFactor.Within G) := by
  refine .seq fun lists => .seq fun ordinality => tableAlias_within.bind fun given hgiven =>
    .seq fun _ => ?_
  extract_lets -underBinder more
  have hmore (withOffset : Bool) : Yields G (more withOffset) (FromFactor.Within G) := by
    dsimp -zeta only [more]
    extract_lets -underBinder last
    have hlast (after : String) : Yields G (last after) (FromFactor.Within G) :=
      .pure (FromFactor.within_of_other (by simp) hgiven)
    refine .ite (.seq fun name => ?_) (.seq fun _ => hlast _)
    split <;> exact .seq fun _ => hlast _
  exact .ite (.seq fun _ => .ite (.seq fun _ => hmore _) (.seq fun _ => hmore _))
    (.seq fun _ => hmore _)

lemma pivoted_within {table : FromFactor} :
    Yields G (pivoted inner table) (FromFactor.Within G) :=
  .seq fun _ => aliased_within (by simp)

lemma unpivoted_within {table : FromFactor} :
    Yields G (unpivoted inner table) (FromFactor.Within G) :=
  .seq fun _ => aliased_within (by simp)

lemma turned_within {table : FromFactor} (h : table.Within G) :
    Yields G (turned inner table) (FromFactor.Within G) := by
  refine .repeatedly (fun table _ => .seq fun word => ?_) h
  split
  · exact pivoted_within.some
  · exact unpivoted_within.some
  · exact .none

lemma turnedTable_within : Yields G (turnedTable inner) (FromFactor.Within G) :=
  namedTable_within.bind fun _ hnamed => (turned_within hnamed).bind fun _ hturned =>
    .seq fun _ => .ite (.seq fun _ => aliased_within (by simp)) (.pure hturned)

lemma joined_within {factor : Parser FromFactor} (h : Yields G factor (FromFactor.Within G)) :
    Yields G (joined inner factor) (·.relation.Within G) :=
  h.bind fun _ hrelation => .seq fun _ => .pure hrelation

lemma closeNested_within {item : FromItem} (h : item.relation.Within G) :
    Yields G (closeNested inner item) (FromFactor.Within G) := by
  unfold closeNested
  extract_lets nestedJoin
  have hnested : Yields G nestedJoin (FromFactor.Within G) :=
    .seq fun _ => aliased_within (by simp)
  split
  · exact hnested
  · exact hnested
  · refine .seq fun _ => .ite (.seq fun _ => tableAlias_within.bind fun given hgiven => ?_)
      (.seq fun _ => .expected)
    split
    · exact .pure h
    · exact .pure ⟨h.1, hgiven⟩
    · exact .fail

lemma factorWithin_within (depth : Nat) :
    Yields G (factorWithin inner depth) (FromFactor.Within G) := by
  induction depth with
  | zero => exact .failWith
  | succ depth ih =>
    refine .seq fun _ => .ite lateral_within <|
      .seq fun _ => .ite (.seq fun _ => aliased_within (by simp)) <| .seq fun _ => .ite ?_ <|
      .seq fun _ => .seq fun _ => .ite (.seq fun _ => .seq fun _ => aliased_within (by simp)) <|
      .seq fun _ => .ite unnested_within <|
      .seq fun _ => .ite (.seq fun _ => aliased_within (by simp)) <|
      .seq fun _ => .ite (.seq fun _ => aliased_within (by simp)) turnedTable_within
    refine derivedTable_within.maybe.bind fun table htable => ?_
    split
    · exact turned_within (htable _ rfl)
    · exact (joined_within ih).bind fun item hitem => closeNested_within hitem

lemma fromItem_within : Yields G (fromItem inner) (·.relation.Within G) :=
  .seq fun _ => joined_within (factorWithin_within _)

/-! ### Selects and queries -/

section Inner

variable (hinner : ∀ bound, Yields G (inner.termAbove bound) (·.Within G))

include hinner

lemma selectItem_within : Yields G (selectItem inner) (SelectItem.Within G) := by
  refine (starred_within hinner).bind fun found hfound => ?_
  split
  · exact .seq fun _ => .pure hfound
  · exact .seq fun _ => .pure hfound
  · refine .ite (.seq fun _ => .failAt) (optionalAlias_within.bind fun given hgiven => ?_)
    split
    · exact .pure ⟨hfound, hgiven _ rfl⟩
    · exact .pure hfound

lemma select_within : Yields G (select inner) (Select.Within G) := by
  have hterm : Yields G inner.term (·.Within G) := hinner 0
  refine Yields.peek.bind fun first hplace => .seq fun _ => .seq fun _ => .seq fun _ =>
    (selectItem_within hinner).listed.bind fun items hitems => .seq fun _ => .seq fun _ => ?_
  extract_lets -underBinder afterSources
  have hsources (sources : List FromItem) (h : ∀ item ∈ sources, item.relation.Within G) :
      Yields G (afterSources sources) (Select.Within G) := by
    refine .seq fun _ => .seq fun _ => ?_
    extract_lets -underBinder afterPrewhere
    have hprewhere (prewhere : Option String) :
        Yields G (afterPrewhere prewhere) (Select.Within G) := by
      refine hterm.afterKeyword.bind fun filter hfilter => .seq fun _ => .seq fun _ => .seq fun _ =>
        .seq fun _ => .seq fun _ => .seq fun _ => .seq fun _ => .seq fun _ => ?_
      extract_lets -underBinder last
      have hlast (late : List String) : Yields G (last late) (Select.Within G) :=
        .seq fun _ => .pure ⟨hplace, hitems.1, hitems.2, h, hfilter⟩
      exact .ite (.seq fun _ => hlast _) (.ite (.seq fun _ => hlast _) (.seq fun _ => hlast _))
    exact .ite (.seq fun _ => hprewhere _) (.seq fun _ => hprewhere _)
  exact .ite (fromItem_within.commaSeparated.bind hsources) (.bind (.pure (by simp)) hsources)

lemma sortTerm_within : Yields G (sortTerm inner) (·.term.Within G) := by
  have hterm : Yields G inner.term (·.Within G) := hinner 0
  refine hterm.bind fun term hterm => .seq fun _ => .seq fun _ => .seq fun _ => ?_
  extract_lets -underBinder last
  have hlast (withFill : Option String) : Yields G (last withFill) (·.term.Within G) := .pure hterm
  exact .ite (.seq fun _ => hlast _) (.seq fun _ => hlast _)

lemma optionalSorting_within : Yields G (optionalSorting inner) fun found =>
    ∀ sorting ∈ found, ∀ item ∈ sorting.terms, item.term.Within G :=
  .seq fun _ => .ite ((sortTerm_within hinner).commaSeparated.bind fun _ hterms =>
    .seq fun _ => .just hterms) .none

/-- The select that is all of the body, if there is one, stands in the region. -/
def BodyWithin (G : Region) (body : QueryBody) : Prop :=
  ∀ s, body = .select s → s.Within G

lemma simpleBody_within : Yields G (simpleBody inner) (BodyWithin G) := by
  refine .seq fun _ => .ite ((select_within hinner).bind fun s hs => .pure ?_) <|
    .seq fun _ => .ite (.seq fun _ => .pure (by simp [BodyWithin])) <|
    .seq fun _ => .ite (.seq fun _ => .seq fun _ => .pure (by simp [BodyWithin])) <|
    .seq fun _ => .ite (.seq fun _ => .pure (by simp [BodyWithin])) (.seq fun _ => .expected)
  rintro _ ⟨⟩
  exact hs

omit hinner in
lemma combined_within {bound : Nat} {right : Nat → Parser QueryBody} {left : QueryBody} :
    Yields G (combined bound right left) fun found => ∀ body ∈ found, BodyWithin G body := by
  refine .seq fun _ => ?_
  extract_lets word
  split
  · exact .none
  · exact .ite .none (.seq fun _ => .seq fun _ => .seq fun _ => .just (by simp [BodyWithin]))

lemma bodyWithin_within (depth bound : Nat) :
    Yields G (bodyWithin inner depth bound) (BodyWithin G) := by
  unfold bodyWithin
  refine (simpleBody_within hinner).bind fun first hfirst => ?_
  split
  · exact .pure hfirst
  · exact .repeatedly (fun _ _ => combined_within) hfirst

lemma query_within : Yields G (query inner) (QueryTree.Within G) := by
  have hbody : Yields G (body inner) (BodyWithin G) :=
    .seq fun _ => bodyWithin_within hinner _ _
  refine .seq fun _ => .seq fun _ => .ite (.seq fun _ => .pure ⟨by simp, by simp⟩) <|
    .seq fun _ => .ite (.seq fun _ => .pure ⟨by simp, by simp⟩) <|
    hbody.bind fun body hbody => (optionalSorting_within hinner).bind fun sorting hsorting =>
    .seq fun _ => .seq fun _ => ?_
  extract_lets -underBinder last
  have hlast (limitBy : List String) : Yields G (last limitBy) (QueryTree.Within G) :=
    .seq fun _ => .seq fun _ => .seq fun _ => .seq fun _ => .pure ⟨hbody, hsorting⟩
  exact .ite (.seq fun _ => hlast _) (.seq fun _ => hlast _)

end Inner

/-- **Levels.** What any level of a statement reads stands in the region. -/
lemma level_within (depth : Nat) (bound : Nat) :
    Yields G ((level depth).termAbove bound) (·.Within G) := by
  induction depth generalizing bound with
  | zero => exact .failWith
  | succ depth ih => exact termAbove_within ih bound

lemma levelQuery_within (depth : Nat) : Yields G (level depth).query (QueryTree.Within G) := by
  cases depth with
  | zero => exact .failWith
  | succ depth => exact query_within (level_within depth)

/-! ### Statements -/

/-- The query that the statement is, if it is one, stands in the region. -/
def StatementWithin (G : Region) (statement : StatementTree) : Prop :=
  ∀ q, statement = .query q → q.Within G

lemma statement_within (depth : Nat) : Yields G (statement depth) (StatementWithin G) := by
  cases depth with
  | zero => exact .failWith
  | succ depth =>
    refine .seq fun own => ?_
    split
    · exact .pure (by simp [StatementWithin])
    · refine .seq fun t => .ite ((levelQuery_within depth).bind fun q hq => .pure ?_) <|
        .seq fun _ => .ite (.seq fun _ => .pure (by simp [StatementWithin])) (.seq fun other => ?_)
      · rintro _ ⟨⟩
        exact hq
      · split
        · exact .pure (by simp [StatementWithin])
        · exact .expected

lemma nextStatement_within {nested : Parser StatementTree}
    (h : Yields G nested (StatementWithin G)) {progress : Progress}
    (hprogress : ∀ s ∈ progress.found, StatementWithin G s) :
    Yields G (nextStatement nested progress) fun found =>
      ∀ progress ∈ found, ∀ s ∈ progress.found, StatementWithin G s :=
  .seq fun _ => .seq fun _ => .ite .none <| .ite .none <| .ite .expected <|
    h.bind fun _ hs => .just (List.forall_mem_cons.mpr ⟨hs, hprogress⟩)

/-- **Statements.** Whatever is read from tokens that stand in the region stands there too. -/
lemma statements_within : Yields G statements fun found => ∀ s ∈ found, StatementWithin G s := by
  have hprogress : Yields G (repeatedly (nextStatement (statement depthLimit)) {})
      fun progress => ∀ s ∈ progress.found, StatementWithin G s :=
    .repeatedly (fun _ => nextStatement_within (statement_within depthLimit)) (by simp)
  exact hprogress.bind fun progress h => .pure (by simpa using h)

end Grammar

end SelectBinding.Sql
