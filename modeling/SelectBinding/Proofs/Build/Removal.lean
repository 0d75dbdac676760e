import SelectBinding.Proofs.Build.Written
import SelectBinding.Proofs.Query.Variables
import SelectBinding.Proofs.Scope.Removal

/-!
Removing a table from a query that was built.

A query remembers what the names of its filter and of its expression columns stand for, and a
removal renumbers what it remembers. The names could as well be resolved again among the tables
that are left: that never fails, and it gives what the query remembers.
-/

namespace SelectBinding

/-- The variable is bound to what it stands for. -/
def Scope.Remembers (scope : Scope) (v : Variable) : Prop :=
  ∃ b, v.binding = some b ∧ scope.bind v = .ok b

namespace Fragments

variable {catalog : Catalog} {parts : Fragments} {q q' : Query}

/-! ### What a query remembers -/

lemma remembers_of_resolve {scope : Scope} {asterisk : Bool} {e e' : Expr}
    (h : scope.resolve asterisk e = .ok e') {v : Variable} (hv : v ∈ e'.allVariables) :
    scope.Remembers v := by
  obtain ⟨_, -, b, hb, rfl⟩ := exists_left_of_forall₂ (scope.resolve_variables asterisk e e' h) hv
  exact ⟨b, rfl, hb⟩

lemma remembers_of_makes {scope : Scope} {sources : List Source} {item : Expr} {kind : ColumnKind}
    (h : scope.Makes sources item kind) {v : Variable} (hv : v ∈ kind.allVariables) :
    scope.Remembers v := by
  cases h with
  | name _ hshows => cases hshows <;> simp [ColumnKind.allVariables] at hv
  | expression _ hresolve => exact remembers_of_resolve hresolve hv

/-- **Memory.** A query that is built remembers for each of its variables what it stands for among
the tables of the statement. -/
lemma build_remembers {lookup? : Lookup} (h : build lookup? parts = .ok q) :
    ∃ scope, addTables lookup? {} (parts.tables.getD []) = .ok scope ∧
      q.sources = scope.sources ∧ ∀ v ∈ q.allVariables, scope.Remembers v := by
  obtain ⟨scope, q₁, q₂, htables, hcolumns, hfilter, hordering⟩ := build_ok_iff.mp h
  obtain ⟨columns, hmakes, rfl⟩ := addColumns_ok_iff.mp hcolumns
  obtain ⟨filter, hresolves, rfl⟩ := addFilter_resolves rfl hfilter
  obtain ⟨ordering, -, rfl⟩ := addOrdering_ok hordering
  refine ⟨scope, htables, rfl, fun v hv => ?_⟩
  rcases Query.mem_allVariables.mp hv with ⟨column, hmem, hv⟩ | ⟨e, he, hv⟩
  · obtain ⟨item, -, expr, aliasName, kind, -, -, hkind, rfl⟩ := exists_left_of_forall₂ hmakes hmem
    exact remembers_of_makes hkind hv
  · obtain ⟨written, hresolve⟩ := hresolves e he
    exact remembers_of_resolve hresolve hv

/-! ### After a removal -/

/-- **Removal.** Without empty aliases, what a query remembers after one of its tables is removed is
what its names stand for among the tables that are left, each under its own key: the same as before
but for the numbers of the tables after the removed one. -/
theorem removeTable_remembers {position : Nat} {removed : Source}
    (h : build catalog parts = .ok q) (haliases : NoEmptyAlias (parts.tables.getD []))
    (hremoved : q.removeTable position = .ok (q', removed)) :
    q'.allVariables =
        q.allVariables.map (Variable.mapPositions (Query.positionWithout position)) ∧
      ∀ v ∈ q'.allVariables, ∃ b, v.binding = some b ∧ q'.ownScope.bind v = .ok b := by
  obtain ⟨scope, htables, hsources, hremembers⟩ := build_remembers h
  obtain ⟨-, hfree, rfl⟩ := Query.removeTable_ok_iff.mp hremoved
  have hvariables := q.allVariables_mapPositions (Query.positionWithout position)
  refine ⟨hvariables, fun v' hv' => ?_⟩
  obtain ⟨v, hv, rfl⟩ := List.mem_map.mp (hvariables ▸ hv')
  obtain ⟨b, hb, hbind⟩ := hremembers v hv
  rw [addTables_eq_ofSources htables haliases, ← hsources] at hbind
  refine ⟨b.mapPosition (Query.positionWithout position), by simp [Variable.mapPositions, hb], ?_⟩
  exact Scope.bind_without hbind (Query.position?_ne_of_refersTo hfree hv hb)

/-- The parts of `SELECT COUNT(e.amount) FROM accounts, accounts a, entries e
WHERE e.id = a.id AND amount = 1`, which does not use its first table. -/
def spareParts : Fragments :=
  { columns := some [.call .aggregate "COUNT" [.named "e.amount"]]
    tables := some [.named "accounts", .underName (.named "accounts") (.named "a") false,
      .underName (.named "entries") (.named "e") false]
    clauses := some
      { filter := some (.operation (.operation (.named "e.id") .eq (.named "a.id")) .and
          (.operation (.named "amount") .eq (.const (.integer 1)))) } }

theorem removeTable_remembers_spare : ∃ q q' removed, build ledger spareParts = .ok q ∧
    q.removeTable 0 = .ok (q', removed) ∧
    q'.allVariables.map Variable.binding = [some (.field 1 "amount"), some (.field 1 "id"),
      some (.field 0 "Id"), some (.field 1 "amount")] ∧
    ∀ v ∈ q'.allVariables, ∃ b, v.binding = some b ∧ q'.ownScope.bind v = .ok b := by
  obtain ⟨⟨q', removed⟩, hstep⟩ := Except.exists_of_isOk
    (x := (build ledger spareParts).toOption.elim (.error (.tableInUse 0)) fun q => q.removeTable 0)
    (by decide +kernel)
  obtain ⟨q, hq⟩ := Except.exists_of_isOk (x := build ledger spareParts) (by decide +kernel)
  simp only [hq, Except.toOption, Option.elim_some] at hstep
  have haliases : NoEmptyAlias (spareParts.tables.getD []) := by
    unfold NoEmptyAlias
    decide
  obtain ⟨hvariables, hremembers⟩ := removeTable_remembers hq haliases hstep
  have hbindings := Except.eq_of_toOption_map
    (f := fun q => (q.allVariables.map
      (Variable.mapPositions (Query.positionWithout 0))).map Variable.binding)
    (b := [some (.field 1 "amount"), some (.field 1 "id"), some (.field 0 "Id"),
      some (.field 1 "amount")]) hq (by decide +kernel)
  exact ⟨q, q', removed, hq, hstep, by rw [hvariables]; exact hbindings, hremembers⟩

end Fragments

end SelectBinding
