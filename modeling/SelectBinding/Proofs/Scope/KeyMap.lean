import SelectBinding.Proofs.Scope.Qualifiers

/-!
The map from keys to positions.

A table is registered under the name that a statement gives it, and it has its key from the catalog
and from the alias that is kept. The two agree unless an alias is empty, so the map has under every
key the positions of the tables that go by it, in the order of the tables.
-/

namespace SelectBinding

namespace Scope

variable {scope : Scope} {key : String}

/-- What the map has under `key`: the positions that were registered under it, if any was. -/
def registered? (scope : Scope) (key : String) : Option (List Nat) :=
  if Name.fold key ∈ scope.keys.map Prod.fst then some (scope.positionsFor key) else none

/-- A key is in the map as soon as one position was registered under it. -/
lemma mem_keys_iff : Name.fold key ∈ scope.keys.map Prod.fst ↔ ∃ p, p ∈ scope.positionsFor key := by
  simp only [positionsFor, List.mem_map, List.mem_filter, beq_iff_eq, Prod.exists]
  constructor
  · rintro ⟨key', p, hmem, rfl⟩
    exact ⟨p, _, p, ⟨hmem, rfl⟩, rfl⟩
  · rintro ⟨_, key', p, ⟨hmem, hkey⟩, rfl⟩
    exact ⟨key', p, hmem, hkey⟩

/-- What a key stands for is what the map has under it, and nothing where it has none. -/
lemma positionsFor_eq_registered : scope.positionsFor key = (scope.registered? key).getD [] := by
  unfold registered?
  split
  · rfl
  · next hnone =>
    rw [mem_keys_iff, not_exists] at hnone
    exact List.eq_nil_iff_forall_not_mem.mpr hnone

end Scope

namespace Fragments

open Scope (GoesBy)

/-- **The map.** For every list of tables without empty aliases that a catalog has, the map has
nothing under a key that no table goes by, and under every other one the positions of just the
tables that go by it, in ascending order. A name is bound by what the map has. -/
theorem addTables_registered {catalog : Catalog} {items : List Expr} {scope : Scope}
    (hscope : addTables catalog {} items = .ok scope) (haliases : NoEmptyAlias items)
    (key : String) :
    scope.positionsFor key = (scope.registered? key).getD [] ∧
      (scope.registered? key = none ↔ ∀ p, ¬ GoesBy scope.sources key p) ∧
      ∀ positions, scope.registered? key = some positions →
        positions.Pairwise (· < ·) ∧ ∀ p, p ∈ positions ↔ GoesBy scope.sources key p := by
  have hmem (p : Nat) : p ∈ scope.positionsFor key ↔ GoesBy scope.sources key p := by
    rw [addTables_eq_ofSources hscope haliases]
    exact Scope.mem_positionsFor_ofSources
  have hascending : (scope.positionsFor key).Pairwise (· < ·) := by
    obtain ⟨tables, -, rfl⟩ := addTables_ok_iff.mp hscope
    exact Scope.positionsFor_ascending tables key
  refine ⟨Scope.positionsFor_eq_registered, ?_⟩
  unfold Scope.registered?
  split
  · next hkey =>
    obtain ⟨p, hp⟩ := Scope.mem_keys_iff.mp hkey
    refine ⟨iff_of_false (by simp) fun hnone => hnone p ((hmem p).mp hp), ?_⟩
    rintro _ ⟨⟩
    exact ⟨hascending, hmem⟩
  · next hkey =>
    refine ⟨iff_of_true rfl fun p hp => hkey ?_, by simp⟩
    exact Scope.mem_keys_iff.mpr ⟨p, (hmem p).mpr hp⟩

/-- The tables of `FROM entries E, accounts, ENTRIES e`. -/
def sameKeyItems : List Expr :=
  [.underName (.named "entries") (.named "E") false, .named "accounts",
    .underName (.named "ENTRIES") (.named "e") false]

theorem addTables_registered_repeated : ∃ scope, addTables ledger {} sameKeyItems = .ok scope ∧
    NoEmptyAlias sameKeyItems ∧ scope.registered? "e" = some [0, 2] ∧
    (∀ p, p ∈ [0, 2] ↔ GoesBy scope.sources "e" p) ∧ scope.registered? "entries" = none := by
  have hscope : addTables ledger {} sameKeyItems = .ok (.ofKeyed [(⟨entries, some "E"⟩, "E"),
      (⟨accounts, none⟩, "accounts"), (⟨entries, some "e"⟩, "e")]) := by
    rfl
  have haliases : NoEmptyAlias sameKeyItems := by
    unfold NoEmptyAlias
    decide
  refine ⟨_, hscope, haliases, by decide, ?_, ?_⟩
  · exact ((addTables_registered hscope haliases "e").2.2 [0, 2] (by decide)).2
  · decide

end Fragments

end SelectBinding
