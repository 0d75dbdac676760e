import SelectBinding.Proofs.Scope.Resolved

/-!
Which expressions are resolved, and what their shape is afterwards.

Resolving succeeds on exactly the expressions whose asterisks stand where they may, that have no
name given with `AS` in them, and all of whose variables stand for something.
-/

namespace SelectBinding

namespace Expr

/-- Whether the expression is a variable. -/
def isVariable : Expr → Bool
  | .var _ => true
  | _ => false

mutual

/-- Asterisks stand only for the whole expression, where that is allowed, and as direct arguments of
aggregates; no name is given with `AS`. -/
def Admissible (asterisk : Bool) : Expr → Prop
  | .const _ => True
  | .var v => v.isAsterisk = true → asterisk = true
  | .unary _ arg => arg.Admissible false
  | .binary _ _ left right => left.Admissible false ∧ right.Admissible false
  | .call .function _ args => AllAdmissible false args
  | .call .aggregate _ args => AllAdmissible true args
  | .underName _ _ _ => False
  | .list args => AllAdmissible false args

/-- Every expression of a list is admissible. -/
def AllAdmissible (asterisk : Bool) : List Expr → Prop
  | [] => True
  | arg :: rest => arg.Admissible asterisk ∧ AllAdmissible asterisk rest

end

end Expr

namespace Scope

lemma resolveVariable_isOk_iff {scope : Scope} {asterisk : Bool} {v : Variable} :
    (∃ v', scope.resolveVariable asterisk v = .ok v') ↔
      (v.isAsterisk = true → asterisk = true) ∧ scope.Binds v := by
  rw [resolveVariable_eq, ← misfit?_eq_none_iff]
  simp [unlessFault_ok_iff]

mutual

/-- **What is resolved.** An expression is resolved exactly when it is admissible and all of its
variables stand for something. -/
lemma resolve_isOk_iff (scope : Scope) (asterisk : Bool) (e : Expr) :
    (∃ e', scope.resolve asterisk e = .ok e') ↔
      e.Admissible asterisk ∧ ∀ v ∈ e.allVariables, scope.Binds v := by
  cases e with
  | const value => simp [resolve, Expr.Admissible, Expr.allVariables]
  | var v =>
    simp only [resolve, Except.exists_map_ok, resolveVariable_isOk_iff, Expr.Admissible,
      Expr.allVariables, List.mem_singleton, forall_eq]
  | unary op arg =>
    simp only [resolve, Except.exists_map_ok, Expr.Admissible, Expr.allVariables]
    exact resolve_isOk_iff scope false arg
  | binary family op left right =>
    have hleft := resolve_isOk_iff scope false left
    have hright := resolve_isOk_iff scope false right
    simp only [Expr.Admissible, Expr.allVariables, List.mem_append, or_imp, forall_and]
    rw [and_and_and_comm, ← hleft, ← hright]
    simp only [resolve]
    cases scope.resolve false left with
    | error e => simp
    | ok left' => simp [Except.exists_map_ok]
  | call kind name args =>
    cases kind with
    | function =>
      simp only [resolve, Except.exists_map_ok, Expr.Admissible, Expr.allVariables]
      exact resolveAll_isOk_iff scope false args
    | aggregate =>
      simp only [resolve, Except.exists_map_ok, Expr.Admissible, Expr.allVariables]
      exact resolveAll_isOk_iff scope true args
  | underName expr name explicitAs => simp [resolve, Expr.Admissible]
  | list args =>
    simp only [resolve, Except.exists_map_ok, Expr.Admissible, Expr.allVariables]
    exact resolveAll_isOk_iff scope false args

lemma resolveAll_isOk_iff (scope : Scope) (asterisk : Bool) (es : List Expr) :
    (∃ es', scope.resolveAll asterisk es = .ok es') ↔
      Expr.AllAdmissible asterisk es ∧ ∀ v ∈ Expr.variablesOfAll es, scope.Binds v := by
  cases es with
  | nil => simp [resolveAll, Expr.AllAdmissible, Expr.variablesOfAll]
  | cons arg rest =>
    have harg := resolve_isOk_iff scope asterisk arg
    have hrest := resolveAll_isOk_iff scope asterisk rest
    simp only [Expr.AllAdmissible, Expr.variablesOfAll, List.mem_append, or_imp, forall_and]
    rw [and_and_and_comm, ← harg, ← hrest]
    simp only [resolveAll]
    cases scope.resolve asterisk arg with
    | error e => simp
    | ok arg' => simp [Except.exists_map_ok]

end

/-- Resolving makes variables of variables and of nothing else. -/
lemma resolve_isVariable {scope : Scope} {asterisk : Bool} {e e' : Expr}
    (h : scope.resolve asterisk e = .ok e') : e'.isVariable = e.isVariable := by
  rw [eq_mapVariables_of_resolve h]
  cases e <;> rfl

mutual

/-- What comes of resolving is admissible where the expression was. -/
lemma resolve_admissible (scope : Scope) (asterisk : Bool) (e e' : Expr)
    (h : scope.resolve asterisk e = .ok e') : e'.Admissible asterisk := by
  cases e with
  | const value =>
    obtain rfl := Except.ok.inj h
    trivial
  | var v =>
    obtain ⟨v', hv, rfl⟩ := Except.map_eq_ok_iff.mp h
    obtain ⟨b, -, rfl⟩ := resolveVariable_bindsTo hv
    exact (resolveVariable_isOk_iff.mp ⟨_, hv⟩).1
  | unary op arg =>
    obtain ⟨arg', harg, rfl⟩ := Except.map_eq_ok_iff.mp h
    exact resolve_admissible scope false arg arg' harg
  | binary family op left right =>
    simp only [resolve] at h
    split at h
    · simp at h
    · rename_i left' hleft
      obtain ⟨right', hright, rfl⟩ := Except.map_eq_ok_iff.mp h
      exact ⟨resolve_admissible scope false left left' hleft,
        resolve_admissible scope false right right' hright⟩
  | call kind name args =>
    cases kind with
    | function =>
      obtain ⟨args', hargs, rfl⟩ := Except.map_eq_ok_iff.mp h
      exact resolveAll_admissible scope false args args' hargs
    | aggregate =>
      obtain ⟨args', hargs, rfl⟩ := Except.map_eq_ok_iff.mp h
      exact resolveAll_admissible scope true args args' hargs
  | underName expr name explicitAs => simp [resolve] at h
  | list args =>
    obtain ⟨args', hargs, rfl⟩ := Except.map_eq_ok_iff.mp h
    exact resolveAll_admissible scope false args args' hargs

/-- The same for several expressions. -/
lemma resolveAll_admissible (scope : Scope) (asterisk : Bool) (es es' : List Expr)
    (h : scope.resolveAll asterisk es = .ok es') : Expr.AllAdmissible asterisk es' := by
  cases es with
  | nil =>
    obtain rfl := Except.ok.inj h
    trivial
  | cons arg rest =>
    simp only [resolveAll] at h
    split at h
    · simp at h
    · rename_i arg' harg
      obtain ⟨rest', hrest, rfl⟩ := Except.map_eq_ok_iff.mp h
      exact ⟨resolve_admissible scope asterisk arg arg' harg,
        resolveAll_admissible scope asterisk rest rest' hrest⟩

end

end Scope

end SelectBinding
