import SelectBinding.Proofs.Scope.Calling

/-!
Errors of the program itself.

Building a query has an error of its own for states that no statement should lead to. Almost all of
the places that could raise it are never reached: a bound name is bound to a table that is there, a
new column is there when it gets its alias, and a sorting criterion is found before it is added. One
is left. A table under an empty alias has no alias afterwards, but it was not registered under its
name either; unless something else is, a use of the name finds the table and no key for it.
-/

namespace SelectBinding

/-- If the computation fails, the error is not one of the program itself. -/
def Foreseen {α : Type} (x : Except Diagnostic α) : Prop :=
  ∀ e, x = .error e → e.kind ≠ .implementation

namespace Foreseen

variable {α β : Type} {x : Except Diagnostic α}

lemma ok (a : α) : Foreseen (.ok a : Except Diagnostic α) := by
  simp [Foreseen]

lemma error {e : Diagnostic} (h : e.kind ≠ .implementation) :
    Foreseen (.error e : Except Diagnostic α) := by
  simpa [Foreseen] using h

/-- A function of the value does not touch the error. -/
protected lemma map {f : α → β} (h : Foreseen x) : Foreseen (x.map f) := by
  cases x with
  | ok a => exact .ok _
  | error e => exact .error (h e rfl)

end Foreseen

namespace Scope

/-- A table that goes by a name without an alias in its way is registered under the name. -/
def Callable (scope : Scope) : Prop :=
  ∀ source ∈ scope.sources, ∀ name, source.table.hasName name = true →
    (hidingAlias? name source).isSome = false → scope.positionsFor name ≠ []

variable {scope : Scope}

/-! ### Names -/

lemma bindFieldAt_foreseen {table name : String} {position : Nat} :
    Foreseen (scope.bindFieldAt table name position) := by
  unfold bindFieldAt
  split
  · exact .ok _
  · exact .error (by simp)

/-- **Qualifiers.** A qualifier that is not hidden is a key or the name of no table. -/
lemma bindQualified_foreseen (h : scope.Callable) {table name : String} :
    Foreseen (scope.bindQualified table name) := by
  unfold bindQualified
  split
  · exact .error (by simp)
  · rename_i hfree
    unfold bindByKey
    split
    · rename_i hkeys
      split
      · rename_i hany
        -- Some use of the table does not hide the name, so it is registered under it.
        rw [← Option.not_isSome_iff_eq_none, coveringAlias?_isSome_iff] at hfree
        obtain ⟨source, hsource, hname, hhides⟩ : ∃ source ∈ scope.sources,
            source.table.hasName table = true ∧ (hidingAlias? table source).isSome = false := by
          simpa [List.any_eq_true.mp hany] using hfree
        exact absurd hkeys (h source hsource table hname hhides)
      · exact .error (by simp)
    · split
      · exact .ok _
      · exact bindFieldAt_foreseen
    · exact .error (by simp [repeatedKey])

end Scope

namespace Fragments

variable {catalog : Catalog} {scope : Scope} {items : List Expr} {q : Query}

end Fragments

end SelectBinding
