import SelectBinding.Proofs.Build.Positional

/-!
Which error a statement is refused with.

The tables, the columns, the filter and the sorting criteria are taken one after the other, and the
first of them that cannot be taken decides. What a statement says after it does not matter, so
every statement that goes on from a refused one is refused with the same error.
-/

namespace SelectBinding

namespace Fragments

/-! ### Stages as walks through lists -/

/-- The scope with the table that an item after `FROM` stands for. -/
def addTable (lookup? : Lookup) (scope : Scope) (item : Expr) : Except Diagnostic Scope :=
  (source lookup? item).map fun entry =>
    (scope.register entry.2 scope.sources.length).addTable entry.1

lemma addTables_eq_foldlM (lookup? : Lookup) (scope : Scope) (items : List Expr) :
    addTables lookup? scope items = items.foldlM (addTable lookup?) scope := by
  induction items generalizing scope with
  | nil => rfl
  | cons item rest ih =>
    rw [List.foldlM_cons, addTables, addTable]
    cases source lookup? item with
    | error e => rfl
    | ok entry => exact ih _

lemma addColumns_eq_foldlM (scope : Scope) (q : Query) (items : List Expr) :
    addColumns scope q items = items.foldlM (addColumn scope) q := by
  induction items generalizing q with
  | nil => rfl
  | cons item rest ih =>
    rw [List.foldlM_cons, addColumns]
    cases addColumn scope q item with
    | error e => rfl
    | ok q' => exact ih q'

lemma addOrdering_eq_foldlM (q : Query) (items : List SortItem) :
    addOrdering q items = items.foldlM addSortItem q := by
  induction items generalizing q with
  | nil => rfl
  | cons item rest ih =>
    rw [List.foldlM_cons, addOrdering]
    cases addSortItem q item with
    | error e => rfl
    | ok q' => exact ih q'

/-- **Stages.** Each stage of building starts from what the one before it comes to. -/
lemma build_eq_stages (lookup? : Lookup) (parts : Fragments) :
    build lookup? parts =
      (addTables lookup? {} (parts.tables.getD []) >>= fun scope =>
        addColumns scope (startQuery scope) (parts.columns.getD []) >>= fun q =>
          addFilter scope q (parts.clauses.bind Clauses.filter) >>= fun q =>
            addOrdering q ((parts.clauses.map Clauses.ordering).getD [])) := by
  unfold build
  cases addTables lookup? {} (parts.tables.getD []) with
  | error e => rfl
  | ok scope =>
    simp only [bind, Except.bind]
    cases addColumns scope (startQuery scope) (parts.columns.getD []) with
    | error e => rfl
    | ok q =>
      cases parts.clauses with
      | none => rfl
      | some clauses =>
        simp only [addClauses, Option.bind_some, Option.map_some, Option.getD_some]
        cases addFilter scope q clauses.filter <;> rfl

/-! ### The first fault -/

/-- The error is that of the first item after `FROM` that stands for no table, or else of the first
item that makes no column of the tables, or else of a filter that does not fit the tables, or else
of the first sorting criterion that is found nowhere. -/
inductive FirstFault (lookup? : Lookup) (parts : Fragments) (e : Diagnostic) : Prop where
  | table {before after : List Expr} {item : Expr} {scope : Scope}
      (htables : parts.tables.getD [] = before ++ item :: after)
      (hbefore : addTables lookup? {} before = .ok scope)
      (hitem : source lookup? item = .error e)
  | column {before after : List Expr} {item : Expr} {scope : Scope} {q : Query}
      (hscope : addTables lookup? {} (parts.tables.getD []) = .ok scope)
      (hcolumns : parts.columns.getD [] = before ++ item :: after)
      (hbefore : addColumns scope (startQuery scope) before = .ok q)
      (hitem : addColumn scope q item = .error e)
  | filter {filter : Expr} {scope : Scope} {q : Query}
      (hscope : addTables lookup? {} (parts.tables.getD []) = .ok scope)
      (hcolumns : addColumns scope (startQuery scope) (parts.columns.getD []) = .ok q)
      (hfilter : parts.clauses.bind Clauses.filter = some filter)
      (hitem : scope.resolve false filter = .error e)
  | criterion {before after : List SortItem} {item : SortItem} {scope : Scope} {q q' q'' : Query}
      (hscope : addTables lookup? {} (parts.tables.getD []) = .ok scope)
      (hcolumns : addColumns scope (startQuery scope) (parts.columns.getD []) = .ok q)
      (hfilter : addFilter scope q (parts.clauses.bind Clauses.filter) = .ok q')
      (hordering : (parts.clauses.map Clauses.ordering).getD [] = before ++ item :: after)
      (hbefore : addOrdering q' before = .ok q'')
      (hitem : addSortItem q'' item = .error e)

variable {lookup? : Lookup} {parts parts' : Fragments} {e : Diagnostic}

lemma addTables_error_iff {scope : Scope} {items : List Expr} :
    addTables lookup? scope items = .error e ↔
      ∃ before item after scope', items = before ++ item :: after ∧
        addTables lookup? scope before = .ok scope' ∧ source lookup? item = .error e := by
  simp only [addTables_eq_foldlM, Except.foldlM_error_iff, addTable, Except.map_eq_error_iff]

lemma addColumns_error_iff {scope : Scope} {q : Query} {items : List Expr} :
    addColumns scope q items = .error e ↔
      ∃ before item after q', items = before ++ item :: after ∧
        addColumns scope q before = .ok q' ∧ addColumn scope q' item = .error e := by
  simp only [addColumns_eq_foldlM, Except.foldlM_error_iff]

lemma addFilter_error_iff {scope : Scope} {q : Query} {filter : Option Expr} :
    addFilter scope q filter = .error e ↔
      ∃ expr, filter = some expr ∧ scope.resolve false expr = .error e := by
  cases filter with
  | none => simp [addFilter]
  | some expr => simp [addFilter, Except.map_eq_error_iff]

lemma addOrdering_error_iff {q : Query} {items : List SortItem} :
    addOrdering q items = .error e ↔
      ∃ before item after q', items = before ++ item :: after ∧
        addOrdering q before = .ok q' ∧ addSortItem q' item = .error e := by
  simp only [addOrdering_eq_foldlM, Except.foldlM_error_iff]

lemma build_error_iff : build lookup? parts = .error e ↔ FirstFault lookup? parts e := by
  rw [build_eq_stages]
  simp only [Except.bind_eq_error_iff, addTables_error_iff, addColumns_error_iff,
    addFilter_error_iff, addOrdering_error_iff]
  constructor
  · rintro (⟨before, item, after, scope, htables, hbefore, hitem⟩ | ⟨scope, hscope,
      ⟨before, item, after, q, hcolumns, hbefore, hitem⟩ | ⟨q, hcolumns,
        ⟨filter, hfilter, hitem⟩ | ⟨q', hfilter, before, item, after, q'', hordering, hbefore,
          hitem⟩⟩⟩)
    · exact .table htables hbefore hitem
    · exact .column hscope hcolumns hbefore hitem
    · exact .filter hscope hcolumns hfilter hitem
    · exact .criterion hscope hcolumns hfilter hordering hbefore hitem
  · rintro (⟨htables, hbefore, hitem⟩ | ⟨hscope, hcolumns, hbefore, hitem⟩ |
      ⟨hscope, hcolumns, hfilter, hitem⟩ |
      ⟨hscope, hcolumns, hfilter, hordering, hbefore, hitem⟩)
    · exact .inl ⟨_, _, _, _, htables, hbefore, hitem⟩
    · exact .inr ⟨_, hscope, .inl ⟨_, _, _, _, hcolumns, hbefore, hitem⟩⟩
    · exact .inr ⟨_, hscope, .inr ⟨_, hcolumns, .inl ⟨_, hfilter, hitem⟩⟩⟩
    · exact .inr ⟨_, hscope, .inr ⟨_, hcolumns, .inr ⟨_, hfilter, _, _, _, _, hordering, hbefore,
        hitem⟩⟩⟩

/-! ### Going on -/

/-- The second statement goes on where the first one ends. The sorting criteria are handed over the
last one first, so that one that is declared later comes before the others. -/
inductive Continues : Fragments → Fragments → Prop where
  | tables (tables later : List Expr) (columns : Option (List Expr)) (clauses : Option Clauses) :
      Continues { tables := some tables } { tables := some (tables ++ later), columns, clauses }
  | columns (tables : Option (List Expr)) (columns later : List Expr) (clauses : Option Clauses) :
      Continues { tables, columns := some columns }
        { tables, columns := some (columns ++ later), clauses }
  | clauses (tables columns : Option (List Expr)) (clauses : Option Clauses) :
      Continues { tables, columns } { tables, columns, clauses }
  | ordering (tables columns : Option (List Expr)) (filter : Option Expr)
      (reduced later : List SortItem) :
      Continues { tables, columns, clauses := some (.ofReduced filter reduced) }
        { tables, columns, clauses := some (.ofReduced filter (later ++ reduced)) }

lemma FirstFault.continues (hparts : parts.Continues parts') (h : FirstFault lookup? parts e) :
    FirstFault lookup? parts' e := by
  cases hparts with
  | tables tables later columns clauses =>
    cases h with
    | @table before after item scope htables hbefore hitem =>
      have hmore : tables ++ later = before ++ item :: (after ++ later) := by
        rw [← List.cons_append, ← List.append_assoc, ← htables, Option.getD_some]
      exact .table hmore hbefore hitem
    | column hscope hcolumns => simp at hcolumns
    | filter hscope hcolumns hfilter => simp at hfilter
    | criterion hscope hcolumns hfilter hordering => simp at hordering
  | columns tables columns later clauses =>
    cases h with
    | table htables hbefore hitem => exact .table htables hbefore hitem
    | @column before after item scope q hscope hcolumns hbefore hitem =>
      have hmore : columns ++ later = before ++ item :: (after ++ later) := by
        rw [← List.cons_append, ← List.append_assoc, ← hcolumns, Option.getD_some]
      exact .column hscope hmore hbefore hitem
    | filter hscope hcolumns hfilter => simp at hfilter
    | criterion hscope hcolumns hfilter hordering => simp at hordering
  | clauses tables columns clauses =>
    cases h with
    | table htables hbefore hitem => exact .table htables hbefore hitem
    | column hscope hcolumns hbefore hitem => exact .column hscope hcolumns hbefore hitem
    | filter hscope hcolumns hfilter => simp at hfilter
    | criterion hscope hcolumns hfilter hordering => simp at hordering
  | ordering tables columns filter reduced later =>
    cases h with
    | table htables hbefore hitem => exact .table htables hbefore hitem
    | column hscope hcolumns hbefore hitem => exact .column hscope hcolumns hbefore hitem
    | filter hscope hcolumns hfilter hitem => exact .filter hscope hcolumns hfilter hitem
    | @criterion before after item scope q q' q'' hscope hcolumns hfilter hordering hbefore hitem =>
      have hreduced : reduced.reverse = before ++ item :: after := hordering
      have hmore : (later ++ reduced).reverse = before ++ item :: (after ++ later.reverse) := by
        rw [List.reverse_append, hreduced, List.append_assoc, List.cons_append]
      exact .criterion hscope hcolumns hfilter hmore hbefore hitem

/-- **First error.** A statement is refused with the error of its first fault, and every statement
that goes on from it is refused with the same error. -/
theorem build_error_first (lookup? : Lookup) (parts : Fragments) (e : Diagnostic) :
    (build lookup? parts = .error e ↔ FirstFault lookup? parts e) ∧
      ∀ parts', parts.Continues parts' → build lookup? parts = .error e →
        build lookup? parts' = .error e :=
  ⟨build_error_iff, fun _ hparts h => build_error_iff.mpr ((build_error_iff.mp h).continues hparts)⟩

/-- The parts of `SELECT id, balance FROM accounts`, where no table has the second column. -/
def faultyParts : Fragments :=
  { columns := some [.named "id", .named "balance"], tables := some [.named "accounts"] }

/-- The parts of `SELECT id, balance, nobody.* FROM accounts ORDER BY nothing`. -/
def faultierParts : Fragments :=
  { columns := some [.named "id", .named "balance", .named "nobody.*"]
    tables := some [.named "accounts"]
    clauses := some (.ofReduced none [.named "nothing" true]) }

/-- The error that there is no `balance`. -/
def balanceMissing : Diagnostic :=
  { kind := .reference
    message := "Field not found"
    details := some "Table containing \"balance\" field not found"
    token := "balance" }

theorem build_error_first_balance :
    FirstFault ledger faultyParts balanceMissing ∧ faultyParts.Continues faultierParts ∧
      build ledger faultyParts = .error balanceMissing ∧
      build ledger faultierParts = .error balanceMissing := by
  have herror : build ledger faultyParts = .error balanceMissing := by rfl
  have hcontinues : faultyParts.Continues faultierParts := .columns _ _ [.named "nobody.*"] _
  obtain ⟨hfirst, hmore⟩ := build_error_first ledger faultyParts balanceMissing
  exact ⟨hfirst.mp herror, hcontinues, herror, hmore _ hcontinues herror⟩

end Fragments

end SelectBinding
