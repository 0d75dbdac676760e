import Mathlib.Tactic.Lemma
import SelectBinding.Query.Edit

/-!
The variables of a query.

They stand in its expression columns and in its filter. Renumbering the tables renumbers what they
are bound to and leaves their names alone.
-/

namespace SelectBinding

/-- The variable after `move` has renumbered the tables. -/
def Variable.mapPositions (move : Nat → Nat) (v : Variable) : Variable :=
  { v with binding := v.binding.map (Binding.mapPosition move) }

/-- The variables of an expression column; the other columns have none. -/
def ColumnKind.allVariables : ColumnKind → List Variable
  | .expression e => e.allVariables
  | _ => []

/-- Every variable of the expression columns and of the filter. -/
def Query.allVariables (q : Query) : List Variable :=
  (q.columns.flatMap fun column => column.kind.allVariables) ++
    (q.filter.map Expr.allVariables).getD []

namespace Expr

mutual

lemma allVariables_mapVariables (change : Variable → Variable) (e : Expr) :
    (e.mapVariables change).allVariables = e.allVariables.map change := by
  cases e with
  | const value => rfl
  | var v => rfl
  | unary op arg => exact allVariables_mapVariables change arg
  | binary family op left right =>
    simp only [mapVariables, allVariables, List.map_append]
    rw [allVariables_mapVariables change left, allVariables_mapVariables change right]
  | call kind name args => exact variablesOfAll_mapVariables change args
  | underName expr name explicitAs =>
    simp only [mapVariables, allVariables, List.map_append]
    rw [allVariables_mapVariables change expr, allVariables_mapVariables change name]
  | list args => exact variablesOfAll_mapVariables change args

lemma variablesOfAll_mapVariables (change : Variable → Variable) (es : List Expr) :
    variablesOfAll (mapVariablesOfAll change es) = (variablesOfAll es).map change := by
  cases es with
  | nil => rfl
  | cons arg rest =>
    simp only [mapVariablesOfAll, variablesOfAll, List.map_append]
    rw [allVariables_mapVariables change arg, variablesOfAll_mapVariables change rest]

end

mutual

/-- Variables that are changed twice are changed by one change after the other. -/
lemma mapVariables_mapVariables (change change' : Variable → Variable) (e : Expr) :
    (e.mapVariables change).mapVariables change' = e.mapVariables (change' ∘ change) := by
  cases e with
  | const value => rfl
  | var v => rfl
  | unary op arg =>
    simp only [mapVariables]
    rw [mapVariables_mapVariables change change' arg]
  | binary family op left right =>
    simp only [mapVariables]
    rw [mapVariables_mapVariables change change' left,
      mapVariables_mapVariables change change' right]
  | call kind name args =>
    simp only [mapVariables]
    rw [mapVariablesOfAll_mapVariablesOfAll change change' args]
  | underName expr name explicitAs =>
    simp only [mapVariables]
    rw [mapVariables_mapVariables change change' expr,
      mapVariables_mapVariables change change' name]
  | list args =>
    simp only [mapVariables]
    rw [mapVariablesOfAll_mapVariablesOfAll change change' args]

lemma mapVariablesOfAll_mapVariablesOfAll (change change' : Variable → Variable) (es : List Expr) :
    mapVariablesOfAll change' (mapVariablesOfAll change es) =
      mapVariablesOfAll (change' ∘ change) es := by
  cases es with
  | nil => rfl
  | cons arg rest =>
    simp only [mapVariablesOfAll]
    rw [mapVariables_mapVariables change change' arg,
      mapVariablesOfAll_mapVariablesOfAll change change' rest]

end

lemma allVariables_mapPositions (move : Nat → Nat) (e : Expr) :
    (e.mapPositions move).allVariables = e.allVariables.map (Variable.mapPositions move) :=
  allVariables_mapVariables _ e

end Expr

namespace Query

lemma mem_allVariables {q : Query} {v : Variable} :
    v ∈ q.allVariables ↔ (∃ column ∈ q.columns, v ∈ column.kind.allVariables) ∨
      ∃ e, q.filter = some e ∧ v ∈ e.allVariables := by
  cases hfilter : q.filter <;> simp [allVariables, hfilter]

/-- Renumbering the tables renumbers what the variables are bound to. -/
lemma allVariables_mapPositions (move : Nat → Nat) (q : Query) :
    (q.mapPositions move).allVariables = q.allVariables.map (Variable.mapPositions move) := by
  have hkind (kind : ColumnKind) :
      (kind.mapPositions move).allVariables =
        kind.allVariables.map (Variable.mapPositions move) := by
    cases kind with
    | expression e => exact e.allVariables_mapPositions move
    | _ => rfl
  have hfilter : ((q.filter.map (Expr.mapPositions move)).map Expr.allVariables).getD [] =
      ((q.filter.map Expr.allVariables).getD []).map (Variable.mapPositions move) := by
    cases q.filter with
    | none => rfl
    | some e => exact e.allVariables_mapPositions move
  simp only [allVariables, mapPositions, List.flatMap_map, List.map_append, List.map_flatMap,
    hkind, hfilter]

/-- No variable is bound to a table that nothing refers to. -/
lemma position?_ne_of_refersTo {q : Query} {position : Nat} (h : q.refersTo position = false)
    {v : Variable} (hv : v ∈ q.allVariables) {b : Binding} (hb : v.binding = some b) :
    b.position? ≠ some position := by
  intro hposition
  have he {e : Expr} (hmem : v ∈ e.allVariables) : e.refersTo position = true :=
    List.any_eq_true.mpr ⟨v, hmem, by simp [hb, hposition]⟩
  simp only [refersTo, Bool.or_eq_false_iff] at h
  obtain ⟨⟨hcolumns, hfilter⟩, -⟩ := h
  rcases mem_allVariables.mp hv with ⟨column, hcolumn, hmem⟩ | ⟨e, hq, hmem⟩
  · obtain ⟨kind, aliasName, visible⟩ := column
    cases kind with
    | expression e =>
      have := List.any_eq_false.mp hcolumns _ hcolumn
      exact this (he hmem)
    | _ => simp [ColumnKind.allVariables] at hmem
  · simp [hq, he hmem] at hfilter

end Query

end SelectBinding
