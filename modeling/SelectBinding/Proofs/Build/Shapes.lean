import SelectBinding.Proofs.Build.FirstFault
import SelectBinding.Proofs.Scope.Owners

/-!
Errors about the shape of a column.

Building refuses columns that are lists, names given twice over, and names that are no variables. A
statement writes none of these: its columns are plain expressions, each perhaps under a name. What
is left is the asterisk for all tables where there are none.
-/

namespace SelectBinding

/-! ### Shapes -/

namespace Expr

/-- An expression as a statement writes it. Nothing in it has a name, an operation is filed under
the family of its operator, a list stands on the right of `IN` and `NOT IN` and nowhere else, a call
is that of an aggregate by its name, and no variable is bound. -/
inductive Plain : Expr → Prop where
  | const (value : Constant) : Plain (.const value)
  | var (parts : List String) (position : Option Nat) : Plain (.var ⟨parts, position, none⟩)
  | unary (op : UnaryOp) {arg : Expr} (harg : Plain arg) : Plain (.unary op arg)
  | binary {op : BinaryOp} {left right : Expr} (hop : op.asksMembership = false)
      (hleft : Plain left) (hright : Plain right) : Plain (.binary op.family op left right)
  | membership {op : BinaryOp} {left : Expr} {items : List Expr} (hop : op.asksMembership = true)
      (hleft : Plain left) (hitems : ∀ item ∈ items, Plain item) :
      Plain (.binary op.family op left (.list items))
  | call {kind : CallKind} {name : String} {args : List Expr}
      (hkind : kind = .aggregate ↔
        ∃ known ∈ ["COUNT", "SUM", "AVG", "MIN", "MAX"], Name.agree known name = true)
      (hargs : ∀ arg ∈ args, Plain arg) : Plain (.call kind name args)

/-- A plain expression, perhaps under a name of one part. -/
inductive ColumnShaped : Expr → Prop where
  | bare {e : Expr} (he : Plain e) : ColumnShaped e
  | named {e : Expr} (he : Plain e) (name : String) (position : Option Nat) (explicitAs : Bool) :
      ColumnShaped (.underName e (.var ⟨[name], position, none⟩) explicitAs)

/-- An unbound variable, perhaps under a name of one part. -/
inductive TableShaped : Expr → Prop where
  | bare (parts : List String) (position : Option Nat) : TableShaped (.var ⟨parts, position, none⟩)
  | named (parts : List String) (position : Option Nat) (name : String) (place : Option Nat)
      (explicitAs : Bool) :
      TableShaped
        (.underName (.var ⟨parts, position, none⟩) (.var ⟨[name], place, none⟩) explicitAs)

end Expr

/-- The columns, the tables and the filter are as a statement writes them. -/
structure Fragments.Shaped (parts : Fragments) : Prop where
  columns : ∀ item ∈ parts.columns.getD [], item.ColumnShaped
  tables : ∀ item ∈ parts.tables.getD [], item.TableShaped
  filter : ∀ filter ∈ parts.clauses.bind Clauses.filter, filter.Plain

/-! ### Errors of other kinds -/

namespace Scope

variable {scope : Scope} {asterisk : Bool} {v : Variable} {expr : Expr} {e : Diagnostic}

lemma bindField_error_kind {name : String} (h : scope.bindField name = .error e) :
    e.kind ≠ .shape := by
  rcases bindField_error h with ⟨-, rfl⟩ | ⟨-, details, rfl⟩
  · simp [unknownField]
  · simp

lemma bindByKey_error_kind {table name : String} (h : scope.bindByKey table name = .error e) :
    e.kind ≠ .shape := by
  unfold bindByKey at h
  split at h
  · split at h <;> obtain rfl := Except.error.inj h <;> simp
  · split at h
    · simp at h
    · unfold bindFieldAt at h
      split at h
      · simp at h
      · obtain rfl := Except.error.inj h
        simp
  · obtain rfl := Except.error.inj h
    simp [repeatedKey]

lemma bindQualified_error_kind {table name : String}
    (h : scope.bindQualified table name = .error e) : e.kind ≠ .shape := by
  unfold bindQualified at h
  split at h
  · obtain rfl := Except.error.inj h
    simp
  · exact bindByKey_error_kind h

lemma bind_error_kind (h : scope.bind v = .error e) : e.kind ≠ .shape := by
  intro hkind
  obtain ⟨e', he', hkind'⟩ := bind_error_kind_iff.mp ⟨e, h, hkind⟩
  unfold bindParts at he'
  split at he'
  · simp at he'
  · exact bindField_error_kind he' hkind'
  · exact bindQualified_error_kind he' hkind'
  · obtain rfl := Except.error.inj he'
    simp at hkind'

/-- Resolving knows nothing of the shapes of columns. -/
lemma resolve_error_kind (h : scope.resolve asterisk expr = .error e) : e.kind ≠ .shape := by
  rcases resolve_error h with ⟨hkind, -⟩ | ⟨v, -, hbind⟩
  · simp [hkind]
  · exact bind_error_kind hbind

/-- Only the bare asterisk stands for the fields of all tables. -/
lemma parts_of_bind_allTables (h : scope.bind v = .ok .allTables) : v.parts = ["*"] := by
  rw [bind_ok_iff] at h
  unfold bindParts at h
  split at h
  · assumption
  · obtain ⟨p, source, field, -, hb⟩ := bindField_ok_iff.mp h
    simp at hb
  · obtain ⟨p, -, hb⟩ := bindByKey_ok_iff.mp (bindQualified_ok_iff.mp h).2
    split at hb
    · simp at hb
    · obtain ⟨source, field, -, -, hb⟩ := bindFieldAt_ok_iff.mp hb
      simp at hb
  · simp at h

end Scope

namespace Fragments

variable {lookup? : Lookup} {parts : Fragments} {scope : Scope} {q q' : Query} {item expr : Expr}
  {v : Variable} {e : Diagnostic}

lemma unexpected_error_kind {α : Type} {x : Except QueryError α} (h : unexpected x = .error e) :
    e.kind ≠ .shape := by
  cases x with
  | ok a => simp [unexpected, Except.mapError] at h
  | error e' =>
    obtain rfl := Except.error.inj h
    simp

lemma tableItem_error_kind (h : tableItem item = .error e) : e.kind ≠ .shape := by
  unfold tableItem at h
  split at h
  · simp at h
  · simp at h
  all_goals
    obtain rfl := Except.error.inj h
    simp

lemma source_error_kind (h : source lookup? item = .error e) : e.kind ≠ .shape := by
  unfold source at h
  split at h
  · next hitem =>
    obtain rfl := Except.error.inj h
    exact tableItem_error_kind hitem
  · split at h
    · simp at h
    · obtain rfl := Except.error.inj h
      simp

lemma sortByNumber_error_kind {criterion : SortItem} {number : Nat}
    (h : sortByNumber q criterion number = .error e) : e.kind ≠ .shape := by
  unfold sortByNumber at h
  extract_lets missing at h
  split at h
  · obtain rfl := Except.error.inj h
    simp [missing]
  · next index =>
    cases hsorted : q.sortByPosition index criterion.ascending with
    | ok q' => simp [hsorted, Except.mapError] at h
    | error e' =>
      obtain rfl : missing = e := by simpa [hsorted, Except.mapError] using h
      simp [missing]

lemma addSortItem_error_kind {criterion : SortItem} (h : addSortItem q criterion = .error e) :
    e.kind ≠ .shape := by
  unfold addSortItem at h
  split at h
  · exact unexpected_error_kind h
  · split at h
    · exact sortByNumber_error_kind h
    · unfold sortByName at h
      split at h
      · exact unexpected_error_kind h
      · obtain rfl := Except.error.inj h
        simp

/-! ### Asterisks without tables -/

/-- The error for an asterisk that stands for all tables where there are none. -/
def tablesMissing (v : Variable) : Diagnostic :=
  { kind := .shape
    message := "\"*\" could not be used if no tables are specified"
    token := v.name
    position := v.position }

lemma addBound_shape_error {b : Binding} (hb : v.binding = some b) (h : addBound q v = .error e)
    (hkind : e.kind = .shape) : b = .allTables ∧ q.sources = [] ∧ e = tablesMissing v := by
  unfold addBound at h
  rw [hb] at h
  cases b with
  | allTables =>
    simp only at h
    split at h
    · next hempty => exact ⟨rfl, List.isEmpty_iff.mp hempty, (Except.error.inj h).symm⟩
    · simp at h
  | tableAsterisk position => simp at h
  | field position name =>
    simp only at h
    split at h
    · exact absurd hkind (unexpected_error_kind h)
    · obtain rfl := Except.error.inj h
      simp at hkind

lemma addUnnamed_shape_error (h : addUnnamed scope q expr = .error e) (hkind : e.kind = .shape) :
    ∃ v, expr = .var v ∧ v.parts = ["*"] ∧ q.sources = [] ∧ e = tablesMissing v := by
  unfold addUnnamed at h
  split at h
  · next hresolve =>
    obtain rfl := Except.error.inj h
    exact absurd hkind (Scope.resolve_error_kind hresolve)
  · next v' hresolve =>
    have hvariable : expr.isVariable = true := (Scope.resolve_isVariable hresolve).symm
    obtain ⟨v, rfl⟩ : ∃ v, expr = .var v := by
      cases expr <;> simp_all [Expr.isVariable]
    obtain ⟨_, hv, heq⟩ := Except.map_eq_ok_iff.mp hresolve
    obtain rfl := Expr.var.inj heq
    obtain ⟨b, hb, rfl⟩ := Scope.resolveVariable_bindsTo hv
    obtain ⟨rfl, hsources, rfl⟩ := addBound_shape_error rfl h hkind
    exact ⟨v, rfl, Scope.parts_of_bind_allTables hb, hsources, rfl⟩
  · simp at h

lemma columnItem_of_shaped (hitem : item.ColumnShaped) :
    ∃ expr written, columnItem item = .ok (expr, written) ∧ mayBeColumn expr = true := by
  have hmay {expr : Expr} (hplain : expr.Plain) : mayBeColumn expr = true := by
    cases hplain <;> rfl
  cases hitem with
  | bare hplain =>
    refine ⟨item, none, ?_, hmay hplain⟩
    cases hplain <;> rfl
  | named hplain name position explicitAs => exact ⟨_, _, rfl, hmay hplain⟩

/-- A column as a statement writes it is refused for its shape only if it is the asterisk for all
tables and there are none. -/
lemma addColumn_shape_error (hitem : item.ColumnShaped) (h : addColumn scope q item = .error e)
    (hkind : e.kind = .shape) :
    ∃ v written, columnItem item = .ok (.var v, written) ∧ v.parts = ["*"] ∧ q.sources = [] ∧
      e = tablesMissing v := by
  obtain ⟨expr, written, hparts, hmay⟩ := columnItem_of_shaped hitem
  -- Giving the alias can only be an error of the program.
  have hunnamed : addUnnamed scope q expr = .error e := by
    simp only [addColumn, hparts, hmay, if_true] at h
    cases hadded : addUnnamed scope q expr with
    | error e' => simpa [hadded] using h
    | ok q' =>
      rw [hadded] at h
      cases written with
      | none => simp at h
      | some name => exact absurd hkind (unexpected_error_kind h)
  obtain ⟨v, rfl, hasterisk, hsources, rfl⟩ := addUnnamed_shape_error hunnamed hkind
  exact ⟨v, written, hparts, hasterisk, hsources, rfl⟩

lemma addTables_sources_eq_nil {items : List Expr} (h : addTables lookup? {} items = .ok scope)
    (hsources : scope.sources = []) : items = [] := by
  obtain ⟨tables, hkeyed, rfl⟩ := addTables_ok_iff.mp h
  have hlength := (Except.mapM_ok_iff.mp hkeyed).length_eq
  obtain rfl : tables = [] := by simpa [Scope.ofKeyed] using hsources
  simpa using hlength

/-- **Shapes.** What a statement writes is refused for its shape only for an asterisk that stands
for all tables where there are none. -/
lemma build_shape_error (hparts : parts.Shaped) (h : build lookup? parts = .error e)
    (hkind : e.kind = .shape) :
    parts.tables.getD [] = [] ∧ ∃ item ∈ parts.columns.getD [], ∃ v written,
      columnItem item = .ok (.var v, written) ∧ v.parts = ["*"] ∧ e = tablesMissing v := by
  cases build_error_iff.mp h with
  | table _ _ hitem => exact absurd hkind (source_error_kind hitem)
  | @column before after item scope q hscope hcolumns hbefore hitem =>
    have hmem : item ∈ parts.columns.getD [] := by simp [hcolumns]
    obtain ⟨v, written, hv, hasterisk, hsources, rfl⟩ :=
      addColumn_shape_error (hparts.columns item hmem) hitem hkind
    obtain ⟨added, -, rfl⟩ := addColumns_ok_iff.mp hbefore
    exact ⟨addTables_sources_eq_nil hscope hsources, item, hmem, v, written, hv, hasterisk, rfl⟩
  | filter _ _ _ hitem => exact absurd hkind (Scope.resolve_error_kind hitem)
  | criterion _ _ _ _ _ hitem => exact absurd hkind (addSortItem_error_kind hitem)

end Fragments

end SelectBinding
