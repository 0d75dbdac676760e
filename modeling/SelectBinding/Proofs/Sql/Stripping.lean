import SelectBinding.Proofs.Outcome
import SelectBinding.Sql.Reading

/-!
What a query may have beside its columns, its tables, its filter and its sorting.

Some of the other clauses are refused. The rest of them is never looked at: the parts of an accepted
query are those of the query without them, so a clause that leaves out rows may stand in a
statement and mean nothing.
-/

namespace SelectBinding.Sql

/-! ### Plain items -/

/-- Nothing is written after an asterisk. -/
def SelectItem.IsPlain : SelectItem → Prop
  | .term _ | .aliased _ _ => True
  | .qualifiedWildcard _ options | .wildcard _ options => options = {}

/-- A table by its name, perhaps under an alias that does not rename columns. -/
def FromItem.IsPlain (item : FromItem) : Prop :=
  item.joins = [] ∧ ∃ name, item.relation.body = .table name {} ∧
    ∀ given, item.relation.tableAlias = some given → given.columns = []

/-- A term with a direction, if anything. -/
def SortTerm.IsPlain (item : SortTerm) : Prop :=
  item.nullsFirst = none ∧ item.withFill = none

/-- Plain terms, and nothing else. -/
def Sorting.IsPlain (sorting : Sorting) : Prop :=
  sorting.interpolate = none ∧ ∀ item ∈ sorting.terms, item.IsPlain

/-! ### Clauses -/

/-- The clauses of a select that are looked for are not there, and its items are plain. -/
structure Select.Admitted (s : Select) : Prop where
  distinct : s.distinct = none
  top : s.top = none
  into : s.into = none
  grouping : s.grouping.isPresent = false
  having : s.having = none
  qualify : s.qualify = none
  items : ∀ item ∈ s.items, item.IsPlain
  sources : ∀ item ∈ s.sources, item.IsPlain

/-- The clauses of a query that are looked for are not there, and it is about one select. -/
structure QueryTree.Admitted (q : QueryTree) : Prop where
  withTables : q.withTables = none
  limit : q.limit = none
  offset : q.offset = none
  fetch : q.fetch = none
  body : ∃ s, q.body = .select s ∧ s.Admitted
  sorting : ∀ sorting, q.sorting = some sorting → sorting.IsPlain

/-- The select with its columns, its tables and its filter only. -/
def Select.stripped (s : Select) : Select :=
  { place := s.place, items := s.items, sources := s.sources, filter := s.filter }

/-- The query with its columns, its tables, its filter and its sorting only. -/
def QueryTree.stripped (q : QueryTree) : QueryTree :=
  { body :=
      match q.body with
      | .select s => .select s.stripped
      | body => body
    sorting := q.sorting }

/-- The clauses of a select that nobody looks for are not there. -/
structure Select.FullyRead (s : Select) : Prop where
  lateralViews : s.lateralViews = []
  prewhere : s.prewhere = none
  grouping : s.grouping = .absent
  clusterBy : s.clusterBy = []
  distributeBy : s.distributeBy = []
  sortBy : s.sortBy = []
  windows : s.windows = []
  windowsFirst : s.windowsFirst = false
  connectBy : s.connectBy = none

/-- The clauses of a query that nobody looks for are not there. -/
structure QueryTree.FullyRead (q : QueryTree) : Prop where
  limitBy : q.limitBy = []
  settings : q.settings = none
  locks : q.locks = []
  forClause : q.forClause = none
  format : q.format = none
  body : ∀ s, q.body = .select s → s.FullyRead

/-- A select that is admitted has nothing but what is read exactly when it is its own rest. -/
lemma Select.Admitted.eq_stripped_iff {s : Select} (h : s.Admitted) :
    s = s.stripped ↔ s.FullyRead := by
  obtain ⟨hdistinct, htop, hinto, -, hhaving, hqualify, -, -⟩ := h
  cases s
  simp only [stripped, Select.mk.injEq] at *
  constructor
  · rintro ⟨-, -, -, -, -, -, h₁, h₂, -, h₃, h₄, h₅, h₆, -, h₇, -, h₈, h₉⟩
    exact ⟨h₁, h₂, h₃, h₄, h₅, h₆, h₇, h₈, h₉⟩
  · rintro ⟨h₁, h₂, h₃, h₄, h₅, h₆, h₇, h₈, h₉⟩
    exact ⟨trivial, hdistinct, htop, trivial, hinto, trivial, h₁, h₂, trivial, h₃, h₄, h₅, h₆, hhaving, h₇,
      hqualify, h₈, h₉⟩

lemma QueryTree.Admitted.eq_stripped_iff {q : QueryTree} (h : q.Admitted) :
    q = q.stripped ↔ q.FullyRead := by
  obtain ⟨hwith, hlimit, hoffset, hfetch, ⟨s, hbody, hs⟩, -⟩ := h
  have hselect := hs.eq_stripped_iff
  cases q
  simp only at hbody
  subst hbody
  simp only [stripped, QueryTree.mk.injEq, QueryBody.select.injEq] at *
  constructor
  · rintro ⟨-, hs, -, -, -, h₁, h₂, -, h₃, h₄, h₅⟩
    exact ⟨h₁, h₂, h₃, h₄, h₅, fun s' hs' => QueryBody.select.inj hs' ▸ hselect.mp hs⟩
  · rintro ⟨h₁, h₂, h₃, h₄, h₅, hbody⟩
    exact ⟨hwith, hselect.mpr (hbody s rfl), trivial, hlimit, hoffset, h₁, h₂, hfetch, h₃, h₄, h₅⟩

namespace Reading

variable {r : Reading}

/-! ### Items -/

lemma unsupported_ne_ok {α : Type} {construct word : String} {start : Nat} {a : α} :
    r.unsupported construct word start ≠ .ok a := by
  simp [unsupported, refusal]

lemma checkWildcard_ok {options : WildcardOptions} {start : Nat}
    (h : r.checkWildcard options start = .ok ()) : options = {} := by
  obtain ⟨ilike, exclude, except, replace, rename⟩ := options
  simp only [checkWildcard] at h
  cases ilike <;> cases exclude <;> cases except <;> cases replace <;> cases rename <;>
    simp [unsupported_ne_ok] at h
  rfl

lemma column_plain {select : Nat} {item : SelectItem} {e : Expr}
    (h : r.column select item = .ok e) : item.IsPlain := by
  cases item with
  | term t => trivial
  | aliased t aliasName => trivial
  | qualifiedWildcard name options =>
    obtain ⟨_, hcheck, -⟩ := Except.bind_eq_ok_iff.mp h
    exact checkWildcard_ok hcheck
  | wildcard place options =>
    obtain ⟨_, hcheck, -⟩ := Except.bind_eq_ok_iff.mp h
    exact checkWildcard_ok hcheck

lemma aliasedTable_ok {table : Variable} {given : Option TableAlias} {e : Expr}
    (h : r.aliasedTable table given = .ok e) : ∀ a, given = some a → a.columns = [] := by
  rintro a rfl
  by_contra hne
  simp [aliasedTable, hne, refusal] at h

lemma table_plain {select : Nat} {item : FromItem} {e : Expr} (h : r.table select item = .ok e) :
    item.IsPlain := by
  obtain ⟨⟨body, given⟩, joins⟩ := item
  unfold table at h
  cases joins with
  | cons join joins => simp [unsupported_ne_ok] at h
  | nil =>
    cases body with
    | table name extras =>
      by_cases hextras : extras = {}
      · subst hextras
        simp only [List.isEmpty_nil, Bool.not_true, Bool.false_eq_true, if_false, if_true] at h
        obtain ⟨v, -, halias⟩ := Except.bind_eq_ok_iff.mp h
        exact ⟨rfl, name, rfl, aliasedTable_ok halias⟩
      · simp [hextras, unsupportedTable, refusal] at h
    | derived text => simp [subselect, unsupported_ne_ok] at h
    | nestedJoin text => simp [unsupportedTable, refusal] at h
    | other before after => simp [unsupportedTable, refusal] at h

lemma sortItem_plain {order : Nat} {item : SortTerm} {position : Option Nat} {i : SortItem}
    (h : r.sortItem order item position = .ok i) : item.IsPlain := by
  obtain ⟨term, ascending, nullsFirst, withFill⟩ := item
  unfold sortItem at h
  rcases nullsFirst with _ | _ | _
  · cases withFill with
    | none => exact ⟨rfl, rfl⟩
    | some text => simp [unsupported_ne_ok] at h
  · simp [unsupported_ne_ok] at h
  · simp [unsupported_ne_ok] at h

/-- Every criterion is accepted by itself, with the place at its index. -/
lemma sortItems_getElem? {order : Nat} {offsets : List Nat} {terms : List SortTerm}
    {items : List SortItem} (h : r.sortItems order offsets terms = .ok items) :
    terms.length = items.length ∧ ∀ (i : Nat) (term : SortTerm) (item : SortItem),
      terms[i]? = some term → items[i]? = some item →
        r.sortItem order term offsets[i]? = .ok item := by
  induction terms generalizing offsets items with
  | nil =>
    cases h
    simp
  | cons term rest ih =>
    obtain ⟨item, hterm, hmore⟩ := Except.bind_eq_ok_iff.mp h
    obtain ⟨more, hrest, hitems⟩ := Except.bind_eq_ok_iff.mp hmore
    cases hitems
    obtain ⟨hlength, hall⟩ := ih hrest
    refine ⟨by simp [hlength], fun i term' item' hterm' hitem' => ?_⟩
    cases i with
    | zero =>
      cases hterm'
      cases hitem'
      rwa [← List.head?_eq_getElem?]
    | succ i =>
      rw [← List.getElem?_tail]
      exact hall i term' item' hterm' hitem'

lemma sortItems_mem {order : Nat} {offsets : List Nat} {terms : List SortTerm}
    {items : List SortItem} (h : r.sortItems order offsets terms = .ok items) :
    ∀ term ∈ terms, ∃ position item, r.sortItem order term position = .ok item := by
  obtain ⟨hlength, hall⟩ := sortItems_getElem? h
  intro term hterm
  obtain ⟨i, hi, rfl⟩ := List.mem_iff_getElem.mp hterm
  exact ⟨offsets[i]?, items[i], hall i terms[i] items[i] (by simp) (by simp)⟩

lemma sortItems_plain {order : Nat} {offsets : List Nat} {terms : List SortTerm}
    {items : List SortItem} (h : r.sortItems order offsets terms = .ok items) :
    ∀ item ∈ terms, item.IsPlain := by
  intro term hterm
  obtain ⟨position, item, hitem⟩ := sortItems_mem h term hterm
  exact sortItem_plain hitem

lemma ordering_plain {select : Nat} {sorting : Option Sorting} {items : List SortItem}
    (h : r.ordering select sorting = .ok items) : ∀ s, sorting = some s → s.IsPlain := by
  rintro ⟨terms, interpolate⟩ rfl
  cases interpolate with
  | some text => simp [ordering, unsupported_ne_ok] at h
  | none => exact ⟨rfl, sortItems_plain (by simpa [ordering] using h)⟩

/-! ### Clauses -/

lemma checkSelect_ok_iff {s : Select} :
    r.checkSelect s = .ok () ↔ s.distinct = none ∧ s.top = none ∧ s.into = none ∧
      s.grouping.isPresent = false ∧ s.having = none ∧ s.qualify = none := by
  unfold checkSelect
  simp only
  cases s.distinct <;> cases s.top <;> cases s.into <;> cases s.grouping.isPresent <;>
    cases s.having <;> cases s.qualify <;> simp [unsupported_ne_ok]

lemma checkQuery_ok_iff {q : QueryTree} :
    r.checkQuery q = .ok () ↔
      q.withTables = none ∧ q.limit = none ∧ q.offset = none ∧ q.fetch = none := by
  unfold checkQuery
  simp only
  cases q.withTables <;> cases q.limit <;> cases q.offset <;> cases q.fetch <;>
    simp [unsupported_ne_ok]

/-! ### Queries -/

lemma onlySelect_ok_iff {body : QueryBody} {s : Select} :
    r.onlySelect body = .ok s ↔ body = .select s := by
  cases body <;> simp [onlySelect, subselect, unsupported_ne_ok, refusal]

/-- The columns of the parts of a query are what its items are read as. -/
lemma fragments_columns {q : QueryTree} {parts : Fragments} (h : r.fragments q = .ok parts) :
    ∃ s select, q.body = .select s ∧
      List.Forall₂ (fun item e => r.column select item = .ok e) s.items
        (parts.columns.getD []) := by
  obtain ⟨_, -, h⟩ := Except.bind_eq_ok_iff.mp h
  obtain ⟨s, hbody, h⟩ := Except.bind_eq_ok_iff.mp h
  obtain ⟨_, -, h⟩ := Except.bind_eq_ok_iff.mp h
  obtain ⟨columns, hcolumns, h⟩ := Except.bind_eq_ok_iff.mp h
  obtain ⟨tables, -, h⟩ := Except.bind_eq_ok_iff.mp h
  obtain ⟨filter, -, h⟩ := Except.bind_eq_ok_iff.mp h
  obtain ⟨ordering, -, h⟩ := Except.bind_eq_ok_iff.mp h
  obtain rfl := Except.ok.inj h
  exact ⟨s, _, onlySelect_ok_iff.mp hbody, Except.mapM_ok_iff.mp hcolumns⟩

/-- The parts of a query do not depend on what is stripped off it. -/
lemma fragments_eq_stripped {q : QueryTree} {s : Select} (hbody : q.body = .select s)
    (hq : r.checkQuery q = .ok ()) (hs : r.checkSelect s = .ok ()) :
    r.fragments q = r.fragments q.stripped := by
  have hquery : r.checkQuery q.stripped = .ok () := checkQuery_ok_iff.mpr ⟨rfl, rfl, rfl, rfl⟩
  have hselect : r.checkSelect s.stripped = .ok () :=
    checkSelect_ok_iff.mpr ⟨rfl, rfl, rfl, rfl, rfl, rfl⟩
  have hstripped : q.stripped.body = .select s.stripped := by simp [QueryTree.stripped, hbody]
  simp only [fragments, hq, hquery, hbody, hstripped, onlySelect, bind, Except.bind, hs, hselect]
  rfl

/-- **Accepted queries.** A query that has parts has no clause that is looked for, and its items are
plain. Its parts are those of its columns, its tables, its filter and its sorting alone, so whatever
else it has is dropped: it has nothing else exactly when the clauses that nobody looks for are not
there. -/
theorem fragments_ok {q : QueryTree} {parts : Fragments} (h : r.fragments q = .ok parts) :
    q.Admitted ∧ r.fragments q.stripped = .ok parts ∧ (q = q.stripped ↔ q.FullyRead) := by
  have hparts := h
  obtain ⟨_, hq, h⟩ := Except.bind_eq_ok_iff.mp h
  obtain ⟨s, hbody, h⟩ := Except.bind_eq_ok_iff.mp h
  obtain ⟨_, hs, h⟩ := Except.bind_eq_ok_iff.mp h
  obtain ⟨columns, hcolumns, h⟩ := Except.bind_eq_ok_iff.mp h
  obtain ⟨tables, htables, h⟩ := Except.bind_eq_ok_iff.mp h
  obtain ⟨filter, -, h⟩ := Except.bind_eq_ok_iff.mp h
  obtain ⟨ordering, hordering, -⟩ := Except.bind_eq_ok_iff.mp h
  have hselect := onlySelect_ok_iff.mp hbody
  obtain ⟨hwith, hlimit, hoffset, hfetch⟩ := checkQuery_ok_iff.mp hq
  obtain ⟨hdistinct, htop, hinto, hgrouping, hhaving, hqualify⟩ := checkSelect_ok_iff.mp hs
  have hadmitted : q.Admitted := by
    refine ⟨hwith, hlimit, hoffset, hfetch, ⟨s, hselect, hdistinct, htop, hinto, hgrouping,
      hhaving, hqualify, fun item hitem => ?_, fun item hitem => ?_⟩, ordering_plain hordering⟩
    · obtain ⟨e, -, he⟩ := exists_right_of_forall₂ (Except.mapM_ok_iff.mp hcolumns) hitem
      exact column_plain he
    · obtain ⟨e, -, he⟩ := exists_right_of_forall₂ (Except.mapM_ok_iff.mp htables) hitem
      exact table_plain he
  exact ⟨hadmitted, fragments_eq_stripped hselect hq hs ▸ hparts, hadmitted.eq_stripped_iff⟩

/-- The statement `SELECT owner FROM accounts a FOR UPDATE` as it is read. -/
def lockedQuery : QueryTree :=
  { body := .select
      { place := ⟨1, 1⟩
        items := [.term (.name ⟨"owner", none, ⟨1, 8⟩⟩)]
        sources := [{ relation :=
          { body := .table [⟨"accounts", none, ⟨1, 19⟩⟩] {}
            tableAlias := some { name := ⟨"a", none, ⟨1, 28⟩⟩ } } }] }
    locks := ["FOR UPDATE"] }

theorem fragments_ok_locked : ∃ r parts, fragments r lockedQuery = .ok parts ∧
    lockedQuery.Admitted ∧ r.fragments lockedQuery.stripped = .ok parts ∧
    (lockedQuery = lockedQuery.stripped ↔ lockedQuery.FullyRead) := by
  obtain ⟨parts, h⟩ := Except.exists_of_isOk
    (x := fragments ⟨.of .ansi "SELECT owner FROM accounts a FOR UPDATE", .builtin⟩ lockedQuery)
    (by decide +kernel)
  exact ⟨_, parts, h, fragments_ok h⟩

/-- The filter that stands before the others, when a text is one select. -/
def prefilter? : List StatementTree → Option String
  | [.query { body := .select s, .. }] => s.prewhere
  | _ => none

/-- Whether statements are queries that have parts. -/
def havePartsAll (r : Reading) (statements : List StatementTree) : Bool :=
  statements.all fun
    | .query q => (r.fragments q).isOk
    | _ => false

/-- A clause that leaves out rows is dropped: the statement has parts, and these say nothing of
it. -/
theorem prewhere_dropped : ∃ q s parts,
    statementsOf .ansi "SELECT owner FROM accounts PREWHERE id = 1" = .ok [.query q] ∧
    q.body = .select s ∧ s.prewhere = some "id = 1" ∧
    fragments ⟨.of .ansi "SELECT owner FROM accounts PREWHERE id = 1", .builtin⟩ q = .ok parts := by
  obtain ⟨statements, h, hprefilter⟩ := Except.exists_of_toOption_map
    (x := statementsOf .ansi "SELECT owner FROM accounts PREWHERE id = 1") (f := prefilter?)
    (b := some "id = 1") (by decide +kernel)
  have hparts := Except.eq_of_toOption_map h
    (f := havePartsAll ⟨.of .ansi "SELECT owner FROM accounts PREWHERE id = 1", .builtin⟩)
    (b := true) (by decide +kernel)
  unfold prefilter? at hprefilter
  split at hprefilter
  · obtain ⟨parts, hparts⟩ := Except.exists_of_isOk (by simpa [havePartsAll] using hparts)
    exact ⟨_, _, parts, h, rfl, hprefilter, hparts⟩
  · simp at hprefilter

end Reading

end SelectBinding.Sql
