import SelectBinding.Proofs.Build.Removal
import SelectBinding.Proofs.Scope.Renaming

/-!
Giving a table of a query that was built a new alias.

The columns of the query know their tables by position and are written with the new alias. The
variables of its expressions are written as they always were, so the ones that call the table by the
key it had no longer stand for what the query remembers.
-/

namespace SelectBinding

lemma Query.setTableAlias_eq {q : Query} {position : Nat} {aliasName : String}
    (hposition : position < q.sources.length) (hname : aliasName ≠ "") :
    q.setTableAlias position aliasName =
      .ok { q with sources := underAlias q.sources position aliasName } := by
  simp [setTableAlias, underAlias, List.modify_eq_set_getElem?, givenAlias, hposition, hname]

namespace Fragments

variable {lookup? : Lookup} {parts : Fragments} {q : Query} {position : Nat} {aliasName : String}

/-- Without empty aliases, the variables of a query that is built stand for what it remembers among
its tables, each under its own key. -/
lemma build_remembers_ownScope (hlookup : FindsByName lookup?) (h : build lookup? parts = .ok q)
    (haliases : NoEmptyAlias (parts.tables.getD [])) :
    ∀ v ∈ q.allVariables, q.ownScope.Remembers v := by
  obtain ⟨scope, htables, hsources, hremembers⟩ := build_remembers h
  rwa [addTables_eq_ofSources_of_findsByName hlookup htables haliases, ← hsources] at hremembers

/-- **Renaming.** When a table of a query that was built takes an alias that no table goes by, a
variable still stands for what the query remembers exactly when it has no qualifier or is bound to
another table. -/
theorem setTableAlias_remembers_iff (hlookup : FindsByName lookup?)
    (h : build lookup? parts = .ok q) (haliases : NoEmptyAlias (parts.tables.getD []))
    (hposition : position < q.sources.length) (hname : aliasName ≠ "")
    (hunused : Unused q.sources aliasName) :
    ∃ q', q.setTableAlias position aliasName = .ok q' ∧ q'.allVariables = q.allVariables ∧
      ∀ v ∈ q'.allVariables, q'.ownScope.Remembers v ↔
        ¬ (v.parts.length = 2 ∧ v.binding.bind Binding.position? = some position) := by
  refine ⟨_, Query.setTableAlias_eq hposition hname, rfl, fun v hv => ?_⟩
  obtain ⟨b, hb, hbind⟩ := build_remembers_ownScope hlookup h haliases v hv
  simp only [Scope.Remembers, hb, Option.some.injEq, Option.bind_some, exists_eq_left']
  exact Scope.bind_underAlias_iff hunused hbind

/-- The parts of `SELECT accounts.id FROM accounts, entries e WHERE accounts.id = e.id AND
owner = 1`. -/
def calledParts : Fragments :=
  { columns := some [.named "accounts.id"]
    tables := some [.named "accounts", .underName (.named "entries") (.named "e") false]
    clauses := some
      { filter := some (.operation (.operation (.named "accounts.id") .eq (.named "e.id")) .and
          (.operation (.named "owner") .eq (.const (.integer 1)))) } }

/-- The tables of that statement. -/
def calledSources : List Source :=
  [⟨accounts, none⟩, ⟨entries, some "e"⟩]

lemma build_called : ∃ q, build ledger calledParts = .ok q ∧ q.sources = calledSources :=
  Except.exists_of_toOption_map (by decide +kernel)

lemma unused_called : Unused calledSources "a" := by
  unfold Unused
  decide

theorem setTableAlias_remembers_called : ∃ q q', build ledger calledParts = .ok q ∧
    q.setTableAlias 0 "a" = .ok q' ∧ q'.allVariables = q.allVariables ∧
    ∀ v ∈ q'.allVariables, q'.ownScope.Remembers v ↔
      ¬ (v.parts.length = 2 ∧ v.binding.bind Binding.position? = some 0) := by
  obtain ⟨q, hq, hsources⟩ := build_called
  have haliases : NoEmptyAlias (calledParts.tables.getD []) := by
    unfold NoEmptyAlias
    decide
  have hposition : 0 < q.sources.length := by simp [hsources, calledSources]
  obtain ⟨q', h⟩ := setTableAlias_remembers_iff (findsByName_catalog ledger) hq haliases hposition
    (by decide) (hsources ▸ unused_called)
  exact ⟨q, q', hq, h⟩

/-- With the new alias for its first table, the query is written `SELECT a.Id FROM accounts a,
entries e WHERE accounts.id = e.id AND owner = 1`, where `accounts.id` stands for nothing. -/
theorem called_by_former_key : ∃ q q', build ledger calledParts = .ok q ∧
    q.setTableAlias 0 "a" = .ok q' ∧ Unused q.sources "a" ∧
    ∃ v ∈ q'.allVariables, v.binding = some (.field 0 "Id") ∧
      (q'.ownScope.bind v).isOk = false := by
  obtain ⟨q, hq, hsources⟩ := build_called
  have hposition : 0 < q.sources.length := by simp [hsources, calledSources]
  have hlost := Except.eq_of_toOption_map (f := fun q => q.allVariables.any fun v =>
      decide (v.binding = some (.field 0 "Id")) &&
        !((Scope.ofSources (underAlias calledSources 0 "a")).bind v).isOk)
    (b := true) hq (by decide +kernel)
  obtain ⟨v, hv, hlost⟩ := List.any_eq_true.mp hlost
  simp only [Bool.and_eq_true, decide_eq_true_eq, Bool.not_eq_true'] at hlost
  refine ⟨q, _, hq, Query.setTableAlias_eq hposition (by decide), hsources ▸ unused_called, v, hv,
    hlost.1, ?_⟩
  rw [Query.ownScope, hsources]
  exact hlost.2

end Fragments

end SelectBinding
