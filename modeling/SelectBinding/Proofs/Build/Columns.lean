import SelectBinding.Build
import SelectBinding.Proofs.Scope.Accepts

/-!
What the columns of a query are made of.

Every column item adds one column at the end. A name becomes a field or an asterisk, as it is
bound; everything else becomes an expression, once it is resolved.
-/

namespace SelectBinding

namespace Scope

/-- What a bound name is as a column. -/
inductive Shows (sources : List Source) : Binding → ColumnKind → Prop where
  | field {p : Nat} {name : String} {source : Source} (h : sources[p]? = some source) :
    Shows sources (.field p name) (.field ⟨source.table, name, some p⟩)
  | tableAsterisk {p : Nat} : Shows sources (.tableAsterisk p) (.asterisk (some p))
  | allTables (h : sources ≠ []) : Shows sources .allTables (.asterisk none)

/-- What an item without an alias is as a column. -/
inductive Makes (scope : Scope) (sources : List Source) : Expr → ColumnKind → Prop where
  | name {v : Variable} {b : Binding} {kind : ColumnKind} (h : scope.bind v = .ok b)
    (hb : Shows sources b kind) : Makes scope sources (.var v) kind
  | expression {e e' : Expr} (he : e.isVariable = false) (h : scope.resolve true e = .ok e') :
    Makes scope sources e (.expression e')

end Scope

namespace Fragments

variable {scope : Scope} {q q' : Query}

lemma unexpected_ok_iff {α : Type} {x : Except QueryError α} {a : α} :
    unexpected x = .ok a ↔ x = .ok a :=
  Except.mapError_eq_ok_iff

lemma addField_of_source {source : Source} {field : String} {p : Nat} {visible : Bool}
    (h : q.sources[p]? = some source) :
    q.addField source.table field (some p) visible =
      .ok (q.addColumn (.field ⟨source.table, field, some p⟩) visible) := by
  simp [Query.addField, h, Table.same_refl]

lemma addBound_ok_iff {v : Variable} {b : Binding} (hb : v.binding = some b) :
    addBound q v = .ok q' ↔
      ∃ kind, Scope.Shows q.sources b kind ∧ q' = q.addColumn kind true := by
  unfold addBound
  rw [hb]
  cases b with
  | allTables =>
    by_cases hs : q.sources = []
    · simp only [hs, List.isEmpty_nil, if_true, reduceCtorEq, false_iff]
      rintro ⟨kind, hkind, -⟩
      cases hkind with
      | allTables h => exact h rfl
    · simp only [List.isEmpty_iff, hs, if_false, Except.ok.injEq]
      constructor
      · rintro rfl
        exact ⟨_, .allTables hs, rfl⟩
      · rintro ⟨kind, hkind, rfl⟩
        cases hkind
        rfl
  | tableAsterisk p =>
    simp only [Except.ok.injEq]
    constructor
    · rintro rfl
      exact ⟨_, .tableAsterisk, rfl⟩
    · rintro ⟨kind, hkind, rfl⟩
      cases hkind
      rfl
  | field p name =>
    cases hs : q.sources[p]? with
    | none =>
      simp only [hs, reduceCtorEq, false_iff]
      rintro ⟨kind, hkind, -⟩
      cases hkind with
      | field h => simp [hs] at h
    | some source =>
      simp only [hs, addField_of_source hs, unexpected_ok_iff, Except.ok.injEq]
      constructor
      · rintro rfl
        exact ⟨_, .field hs, rfl⟩
      · rintro ⟨kind, hkind, rfl⟩
        cases hkind with
        | field h =>
          obtain rfl := Option.some.inj (hs.symm.trans h)
          rfl

lemma addUnnamed_ok_iff {expr : Expr} :
    addUnnamed scope q expr = .ok q' ↔
      ∃ kind, scope.Makes q.sources expr kind ∧ q' = q.addColumn kind true := by
  unfold addUnnamed
  cases hr : scope.resolve true expr with
  | error e =>
    simp only [reduceCtorEq, false_iff]
    rintro ⟨kind, hkind, -⟩
    cases hkind with
    | name h hb => simp [Scope.resolve, Scope.resolveVariable, h, Except.map] at hr
    | expression he h => simp [hr] at h
  | ok e =>
    have hvariable := Scope.resolve_isVariable hr
    cases e with
    | var v =>
      obtain ⟨v₀, rfl⟩ : ∃ v₀, expr = .var v₀ := by
        cases expr <;> simp_all [Expr.isVariable]
      obtain ⟨v', hv, heq⟩ := Except.map_eq_ok_iff.mp hr
      obtain rfl := Expr.var.inj heq
      simp only [Scope.resolveVariable] at hv
      split at hv
      · simp at hv
      · obtain ⟨b, hb, rfl⟩ := Except.map_eq_ok_iff.mp hv
        rw [addBound_ok_iff rfl]
        constructor
        · rintro ⟨kind, hkind, rfl⟩
          exact ⟨kind, .name hb hkind, rfl⟩
        · rintro ⟨kind, hkind, rfl⟩
          cases hkind with
          | name h hshows =>
            obtain rfl := Except.ok.inj (hb.symm.trans h)
            exact ⟨kind, hshows, rfl⟩
          | expression he h => simp [Expr.isVariable] at he
    | _ =>
      simp only [Except.ok.injEq]
      constructor
      · rintro rfl
        exact ⟨_, .expression (by simpa [Expr.isVariable] using hvariable.symm) hr, rfl⟩
      · rintro ⟨kind, hkind, rfl⟩
        cases hkind with
        | name h hb => simp [Expr.isVariable] at hvariable
        | expression he h =>
          obtain rfl := Except.ok.inj (hr.symm.trans h)
          rfl

/-- The alias goes to the column that was added last. -/
lemma setColumnAlias_addColumn {kind : ColumnKind} {visible : Bool} {name : String} :
    (q.addColumn kind visible).setColumnAlias q.columns.length name =
      .ok { q with columns := q.columns ++ [⟨kind, Query.givenAlias name, visible⟩] } := by
  simp [Query.setColumnAlias, Query.changeColumn, Query.addColumn]

/-- What an item is as a column. -/
def MakesColumn (scope : Scope) (sources : List Source) (item : Expr) (column : Column) : Prop :=
  ∃ expr aliasName kind, columnItem item = .ok (expr, aliasName) ∧ mayBeColumn expr = true ∧
    scope.Makes sources expr kind ∧ column = ⟨kind, aliasName.bind Query.givenAlias, true⟩

/-- **One column.** An item adds the column that it makes. -/
lemma addColumn_ok_iff {item : Expr} :
    addColumn scope q item = .ok q' ↔
      ∃ column, MakesColumn scope q.sources item column ∧
        q' = { q with columns := q.columns ++ [column] } := by
  unfold addColumn MakesColumn
  cases hitem : columnItem item with
  | error e => simp
  | ok parts =>
    obtain ⟨expr, aliasName⟩ := parts
    simp only [Except.ok.injEq, Prod.mk.injEq]
    cases hmay : mayBeColumn expr with
    | false => simp [hmay]
    | true =>
      simp only [if_true]
      constructor
      · intro h
        cases hadded : addUnnamed scope q expr with
        | error e => simp [hadded] at h
        | ok q₁ =>
          obtain ⟨kind, hkind, rfl⟩ := addUnnamed_ok_iff.mp hadded
          refine ⟨_, ⟨expr, aliasName, kind, ⟨rfl, rfl⟩, hmay, hkind, rfl⟩, ?_⟩
          rw [hadded] at h
          cases aliasName with
          | none => exact (Except.ok.inj h).symm
          | some name =>
            simp only [unexpected_ok_iff, setColumnAlias_addColumn] at h
            exact (Except.ok.inj h).symm
      · rintro ⟨column, ⟨_, _, kind, ⟨rfl, rfl⟩, -, hkind, rfl⟩, rfl⟩
        rw [addUnnamed_ok_iff.mpr ⟨kind, hkind, rfl⟩]
        cases aliasName with
        | none => rfl
        | some name => exact unexpected_ok_iff.mpr setColumnAlias_addColumn

/-- **Columns.** A list of items adds the columns that they make, in their order. -/
lemma addColumns_ok_iff {items : List Expr} :
    addColumns scope q items = .ok q' ↔
      ∃ added, List.Forall₂ (MakesColumn scope q.sources) items added ∧
        q' = { q with columns := q.columns ++ added } := by
  induction items generalizing q with
  | nil =>
    simp only [addColumns, List.forall₂_nil_left_iff, exists_eq_left, List.append_nil,
      Except.ok.injEq]
    exact eq_comm
  | cons item rest ih =>
    simp only [addColumns, List.forall₂_cons_left_iff]
    constructor
    · intro h
      split at h
      · simp at h
      · rename_i q₁ hitem
        obtain ⟨column, hcolumn, rfl⟩ := addColumn_ok_iff.mp hitem
        obtain ⟨added, hadded, rfl⟩ := ih.mp h
        exact ⟨column :: added, ⟨column, added, hcolumn, hadded, rfl⟩, by simp⟩
    · rintro ⟨_, ⟨column, added, hcolumn, hadded, rfl⟩, rfl⟩
      rw [addColumn_ok_iff.mpr ⟨column, hcolumn, rfl⟩]
      exact ih.mpr ⟨added, hadded, by simp⟩

end Fragments

end SelectBinding
