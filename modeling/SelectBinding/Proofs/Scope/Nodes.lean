import SelectBinding.Proofs.Outcome
import SelectBinding.Proofs.Query.Variables
import SelectBinding.Scope

/-!
Expressions node by node.

Resolving goes through the nodes of an expression, each before its parts and these from left to
right. A node can be wrong by itself in three ways: it gives a name, it is an asterisk where none
may stand, or it is a variable that stands for nothing. The first node that is wrong decides the
error. When there is none, each variable is bound to what it stands for, and that is all that
changes.
-/

namespace SelectBinding

/-! ### Nodes -/

namespace Expr

/-- The variable that the expression is. -/
def asVariable? : Expr → Option Variable
  | .var v => some v
  | _ => none

mutual

/-- The nodes of an expression in the order in which they are met, each with the node it is a direct
part of. The expression itself is a part of `parent`. -/
def nodes (parent : Option Expr) : Expr → List (Option Expr × Expr)
  | .const value => [(parent, .const value)]
  | .var v => [(parent, .var v)]
  | .unary op arg => (parent, .unary op arg) :: arg.nodes (some (.unary op arg))
  | .binary family op left right =>
    (parent, .binary family op left right) ::
      (left.nodes (some (.binary family op left right)) ++
        right.nodes (some (.binary family op left right)))
  | .call kind name args =>
    (parent, .call kind name args) :: nodesOfAll (some (.call kind name args)) args
  | .underName expr name explicitAs =>
    (parent, .underName expr name explicitAs) ::
      (expr.nodes (some (.underName expr name explicitAs)) ++
        name.nodes (some (.underName expr name explicitAs)))
  | .list args => (parent, .list args) :: nodesOfAll (some (.list args)) args

/-- The nodes of a list of expressions, all of them parts of `parent`. -/
def nodesOfAll (parent : Option Expr) : List Expr → List (Option Expr × Expr)
  | [] => []
  | arg :: rest => arg.nodes parent ++ nodesOfAll parent rest

end

variable {e node : Expr} {parent : Option Expr}

lemma nodesOfAll_eq_flatMap (parent : Option Expr) (es : List Expr) :
    nodesOfAll parent es = es.flatMap (nodes parent) := by
  induction es with
  | nil => rfl
  | cons e es ih => rw [nodesOfAll, ih, List.flatMap_cons]

/-- **Nodes.** An expression comes before the nodes of its parts. -/
lemma nodes_eq (parent : Option Expr) (e : Expr) :
    e.nodes parent = (parent, e) :: e.children.flatMap (nodes (some e)) := by
  cases e <;> simp [nodes, children, nodesOfAll_eq_flatMap]

mutual

/-- Whatever is met within a node is a part of some node. -/
lemma isSome_of_mem_nodes (parent e : Expr) :
    ∀ node ∈ e.nodes (some parent), node.1.isSome = true := by
  cases e with
  | const value => simp [nodes]
  | var v => simp [nodes]
  | unary op arg =>
    rw [nodes, List.forall_mem_cons]
    exact ⟨rfl, isSome_of_mem_nodes _ arg⟩
  | binary family op left right =>
    rw [nodes, List.forall_mem_cons, List.forall_mem_append]
    exact ⟨rfl, isSome_of_mem_nodes _ left, isSome_of_mem_nodes _ right⟩
  | call kind name args =>
    rw [nodes, List.forall_mem_cons]
    exact ⟨rfl, isSome_of_mem_nodesOfAll _ args⟩
  | underName expr name explicitAs =>
    rw [nodes, List.forall_mem_cons, List.forall_mem_append]
    exact ⟨rfl, isSome_of_mem_nodes _ expr, isSome_of_mem_nodes _ name⟩
  | list args =>
    rw [nodes, List.forall_mem_cons]
    exact ⟨rfl, isSome_of_mem_nodesOfAll _ args⟩

lemma isSome_of_mem_nodesOfAll (parent : Expr) (es : List Expr) :
    ∀ node ∈ nodesOfAll (some parent) es, node.1.isSome = true := by
  cases es with
  | nil => simp [nodesOfAll]
  | cons arg rest =>
    rw [nodesOfAll, List.forall_mem_append]
    exact ⟨isSome_of_mem_nodes parent arg, isSome_of_mem_nodesOfAll parent rest⟩

end

/-- Only the expression itself is a part of nothing. -/
lemma eq_of_mem_nodes_none (h : (none, node) ∈ e.nodes none) : node = e := by
  rw [nodes_eq, List.mem_cons] at h
  rcases h with h | h
  · exact (Prod.mk.inj h).2
  · obtain ⟨child, -, hchild⟩ := List.mem_flatMap.mp h
    exact absurd (isSome_of_mem_nodes e child _ hchild) (by simp)

mutual

/-- The variables of an expression are those of its nodes that are variables. -/
lemma allVariables_eq_filterMap (parent : Option Expr) (e : Expr) :
    e.allVariables = (e.nodes parent).filterMap fun node => node.2.asVariable? := by
  cases e with
  | const value => rfl
  | var v => rfl
  | unary op arg => exact allVariables_eq_filterMap _ arg
  | binary family op left right =>
    rw [allVariables, allVariables_eq_filterMap (some (.binary family op left right)) left,
      allVariables_eq_filterMap (some (.binary family op left right)) right,
      ← List.filterMap_append]
    rfl
  | call kind name args => exact variablesOfAll_eq_filterMap _ args
  | underName expr name explicitAs =>
    rw [allVariables, allVariables_eq_filterMap (some (.underName expr name explicitAs)) expr,
      allVariables_eq_filterMap (some (.underName expr name explicitAs)) name,
      ← List.filterMap_append]
    rfl
  | list args => exact variablesOfAll_eq_filterMap _ args

lemma variablesOfAll_eq_filterMap (parent : Option Expr) (es : List Expr) :
    variablesOfAll es = (nodesOfAll parent es).filterMap fun node => node.2.asVariable? := by
  cases es with
  | nil => rfl
  | cons arg rest =>
    rw [variablesOfAll, nodesOfAll, allVariables_eq_filterMap parent arg,
      variablesOfAll_eq_filterMap parent rest, List.filterMap_append]

end

lemma asVariable?_eq_some_iff {v : Variable} : e.asVariable? = some v ↔ e = .var v := by
  cases e <;> simp [asVariable?]

lemma mem_allVariables_iff {v : Variable} :
    v ∈ e.allVariables ↔ ∃ parent, (parent, .var v) ∈ e.nodes none := by
  simp [allVariables_eq_filterMap none e, asVariable?_eq_some_iff]

end Expr

/-! ### A value or a fault -/

/-- The value, unless there is a fault. -/
def unlessFault {ε α : Type} (fault? : Option ε) (a : α) : Except ε α :=
  fault?.elim (.ok a) .error

section

variable {ε α β : Type} {fault? : Option ε} {a a' : α}

lemma unlessFault_none : unlessFault (none : Option ε) a = .ok a :=
  rfl

lemma unlessFault_ok_iff : unlessFault fault? a = .ok a' ↔ fault? = none ∧ a = a' := by
  cases fault? <;> simp [unlessFault]

lemma unlessFault_error_iff {fault : ε} :
    unlessFault fault? a = .error fault ↔ fault? = some fault := by
  cases fault? <;> simp [unlessFault]

lemma map_unlessFault {f : α → β} : (unlessFault fault? a).map f = unlessFault fault? (f a) := by
  cases fault? <;> rfl

end

namespace Scope

variable {scope : Scope} {asterisk : Bool} {parent : Option Expr} {v : Variable} {e e' : Expr}
  {d : Diagnostic}

/-- The variable stands for something. -/
def Binds (scope : Scope) (v : Variable) : Prop :=
  ∃ b, scope.bind v = .ok b

/-! ### What is wrong with a node -/

/-- Whether an asterisk may stand directly in `parent`. In nothing, it is the whole expression. -/
def allowsAsterisk (asterisk : Bool) : Option Expr → Bool
  | none => asterisk
  | some (.call .aggregate _ _) => true
  | some _ => false

/-- What is wrong with a variable, when an asterisk may stand there or not. -/
def misfit? (scope : Scope) (asterisk : Bool) (v : Variable) : Option Diagnostic :=
  if v.isAsterisk && !asterisk then
    some { kind := .grammar, message := "Syntax Error near \"" ++ v.name ++ "\"",
           token := v.name, position := v.position }
  else
    match scope.bind v with
    | .ok _ => none
    | .error e => some e

/-- What is wrong with a node by itself, whatever its parts are. -/
def offence? (scope : Scope) (asterisk : Bool) : Option Expr × Expr → Option Diagnostic
  | (parent, .var v) => scope.misfit? (allowsAsterisk asterisk parent) v
  | (_, .underName _ name _) =>
    some { kind := .grammar, message := "Syntax Error near \"" ++ name.text ++ "\"" }
  | _ => none

/-- The variable bound to what it stands for, if it stands for anything. -/
def bound (scope : Scope) (v : Variable) : Variable :=
  { v with binding := (scope.bind v).toOption }

lemma resolveVariable_eq :
    scope.resolveVariable asterisk v = unlessFault (scope.misfit? asterisk v) (scope.bound v) := by
  unfold resolveVariable misfit? bound
  by_cases h : (v.isAsterisk && !asterisk) = true
  · rw [if_pos h, if_pos h]
    rfl
  · rw [if_neg h, if_neg h]
    cases scope.bind v <;> rfl

/-- Nothing is wrong with a variable that stands for something, where an asterisk may stand if it is
one. -/
lemma misfit?_eq_none_iff :
    scope.misfit? asterisk v = none ↔ (v.isAsterisk = true → asterisk = true) ∧ scope.Binds v := by
  unfold misfit? Binds
  cases v.isAsterisk <;> cases asterisk <;> cases scope.bind v <;> simp

/-- An asterisk out of place is placed where it stands, and so is an unknown name. -/
lemma misfit?_eq_some (h : scope.misfit? asterisk v = some d) :
    d.kind = .grammar ∧ d.position = v.position ∨ scope.bind v = .error d := by
  unfold misfit? at h
  split at h
  · obtain rfl := Option.some.inj h
    exact .inl ⟨rfl, rfl⟩
  · cases hbind : scope.bind v with
    | ok b => simp [hbind] at h
    | error e =>
      obtain rfl : e = d := by simpa [hbind] using h
      exact .inr rfl

mutual

/-- **Resolving.** The first node that is wrong gives the error; without one, every variable is
bound. -/
lemma resolve_eq (scope : Scope) (asterisk : Bool) (parent : Option Expr) (e : Expr) :
    scope.resolve (allowsAsterisk asterisk parent) e =
      unlessFault ((e.nodes parent).findSome? (scope.offence? asterisk))
        (e.mapVariables scope.bound) := by
  cases e with
  | const value => rfl
  | var v =>
    rw [resolve, resolveVariable_eq, map_unlessFault, Expr.nodes, List.findSome?_singleton]
    rfl
  | unary op arg =>
    -- The parent decides about asterisks, and one that is no aggregate forbids them.
    have harg : scope.resolve false arg = _ :=
      resolve_eq scope asterisk (some (.unary op arg)) arg
    rw [resolve, harg, map_unlessFault]
    rfl
  | binary family op left right =>
    have hleft : scope.resolve false left = _ :=
      resolve_eq scope asterisk (some (.binary family op left right)) left
    have hright : scope.resolve false right = _ :=
      resolve_eq scope asterisk (some (.binary family op left right)) right
    -- An operation is never wrong by itself, and the right side is not met before the left is done.
    simp only [resolve, hleft, hright, Expr.nodes, List.findSome?_cons, offence?,
      List.findSome?_append]
    cases (left.nodes _).findSome? (scope.offence? asterisk) with
    | some fault => rfl
    | none => simp only [unlessFault_none, map_unlessFault, Option.none_or, Expr.mapVariables]
  | call kind name args =>
    cases kind with
    | function =>
      have hargs : scope.resolveAll false args = _ :=
        resolveAll_eq scope asterisk (some (.call .function name args)) args
      rw [resolve, hargs, map_unlessFault]
      rfl
    | aggregate =>
      have hargs : scope.resolveAll true args = _ :=
        resolveAll_eq scope asterisk (some (.call .aggregate name args)) args
      rw [resolve, hargs, map_unlessFault]
      rfl
  | underName expr name explicitAs => rfl
  | list args =>
    have hargs : scope.resolveAll false args = _ :=
      resolveAll_eq scope asterisk (some (.list args)) args
    rw [resolve, hargs, map_unlessFault]
    rfl

/-- The same for several expressions that are parts of one. -/
lemma resolveAll_eq (scope : Scope) (asterisk : Bool) (parent : Option Expr) (es : List Expr) :
    scope.resolveAll (allowsAsterisk asterisk parent) es =
      unlessFault ((Expr.nodesOfAll parent es).findSome? (scope.offence? asterisk))
        (Expr.mapVariablesOfAll scope.bound es) := by
  cases es with
  | nil => rfl
  | cons arg rest =>
    rw [resolveAll, resolve_eq scope asterisk parent arg, resolveAll_eq scope asterisk parent rest,
      Expr.nodesOfAll, List.findSome?_append]
    cases (arg.nodes parent).findSome? (scope.offence? asterisk) with
    | some fault => rfl
    | none => simp only [unlessFault_none, map_unlessFault, Option.none_or, Expr.mapVariablesOfAll]

end

/-- An expression is resolved when none of its nodes is wrong. -/
lemma resolve_eq_unlessFault (scope : Scope) (asterisk : Bool) (e : Expr) :
    scope.resolve asterisk e =
      unlessFault ((e.nodes none).findSome? (scope.offence? asterisk))
        (e.mapVariables scope.bound) :=
  resolve_eq scope asterisk none e

lemma eq_mapVariables_of_resolve (h : scope.resolve asterisk e = .ok e') :
    e' = e.mapVariables scope.bound := by
  rw [resolve_eq_unlessFault, unlessFault_ok_iff] at h
  exact h.2.symm

/-- An expression that is resolved has no variable that stands for nothing. -/
lemma binds_of_resolve (h : scope.resolve asterisk e = .ok e') (hv : v ∈ e.allVariables) :
    scope.Binds v := by
  rw [resolve_eq_unlessFault, unlessFault_ok_iff, List.findSome?_eq_none_iff] at h
  obtain ⟨parent, hmem⟩ := Expr.mem_allVariables_iff.mp hv
  exact (misfit?_eq_none_iff.mp (h.1 _ hmem)).2

/-- An error of resolving is about something that is out of place, or it is that of a variable that
stands for nothing. -/
lemma resolve_error (h : scope.resolve asterisk e = .error d) :
    d.kind = .grammar ∧ (d.position = none ∨ ∃ v ∈ e.allVariables, d.position = v.position) ∨
      ∃ v ∈ e.allVariables, scope.bind v = .error d := by
  rw [resolve_eq_unlessFault, unlessFault_error_iff] at h
  obtain ⟨⟨parent, node⟩, hmem, hnode⟩ := List.exists_of_findSome?_eq_some h
  cases node with
  | var v =>
    have hv : v ∈ e.allVariables := Expr.mem_allVariables_iff.mpr ⟨parent, hmem⟩
    rcases misfit?_eq_some hnode with ⟨hkind, hposition⟩ | hbind
    · exact .inl ⟨hkind, .inr ⟨v, hv, hposition⟩⟩
    · exact .inr ⟨v, hv, hbind⟩
  | underName expr name explicitAs =>
    obtain rfl := Option.some.inj hnode
    exact .inl ⟨rfl, .inl rfl⟩
  | _ => simp [offence?] at hnode

end Scope

end SelectBinding
