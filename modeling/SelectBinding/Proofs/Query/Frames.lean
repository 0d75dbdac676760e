import Mathlib.Data.List.Forall2
import SelectBinding.Proofs.Query.Variables

/-!
Expressions but for their variables.

Take the variables out of an expression and its frame is left: the constants, the operators, the
calls, and the places where the variables stood. The variables are listed from left to right by one
recursion and changed by another. Changing them keeps the frame and changes the list one variable
after the other, and it is the only way to do both: an expression is determined by its frame
together with its variables in order.
-/

namespace SelectBinding.Expr

/-! ### Frames -/

/-- The expressions are the same but for the variables that stand in them. -/
inductive SameFrame : Expr → Expr → Prop where
  | const (value : Constant) : SameFrame (.const value) (.const value)
  | var (v v' : Variable) : SameFrame (.var v) (.var v')
  | unary (op : UnaryOp) {arg arg' : Expr} (h : SameFrame arg arg') :
    SameFrame (.unary op arg) (.unary op arg')
  | binary (family : Family) (op : BinaryOp) {left left' right right' : Expr}
      (hleft : SameFrame left left') (hright : SameFrame right right') :
    SameFrame (.binary family op left right) (.binary family op left' right')
  | call (kind : CallKind) (name : String) {args args' : List Expr}
      (h : List.Forall₂ SameFrame args args') :
    SameFrame (.call kind name args) (.call kind name args')
  | underName {expr expr' name name' : Expr} (hexpr : SameFrame expr expr')
      (hname : SameFrame name name') (explicitAs : Bool) :
    SameFrame (.underName expr name explicitAs) (.underName expr' name' explicitAs)
  | list {args args' : List Expr} (h : List.Forall₂ SameFrame args args') :
    SameFrame (.list args) (.list args')

mutual

/-- Expressions with the same frame have equally many variables. -/
lemma SameFrame.length_allVariables (e e' : Expr) (h : e.SameFrame e') :
    e'.allVariables.length = e.allVariables.length := by
  cases h with
  | const value => rfl
  | var v v' => rfl
  | @unary op arg arg' h => exact length_allVariables arg arg' h
  | binary family op hleft hright =>
    simp only [allVariables, List.length_append]
    rw [length_allVariables _ _ hleft, length_allVariables _ _ hright]
  | @call kind name args args' h => exact length_variablesOfAll args args' h
  | underName hexpr hname explicitAs =>
    simp only [allVariables, List.length_append]
    rw [length_allVariables _ _ hexpr, length_allVariables _ _ hname]
  | @list args args' h => exact length_variablesOfAll args args' h

lemma SameFrame.length_variablesOfAll (es es' : List Expr) (h : List.Forall₂ SameFrame es es') :
    (variablesOfAll es').length = (variablesOfAll es).length := by
  cases h with
  | nil => rfl
  | cons h hs =>
    simp only [variablesOfAll, List.length_append]
    rw [length_allVariables _ _ h, length_variablesOfAll _ _ hs]

end

mutual

lemma sameFrame_mapVariables (change : Variable → Variable) (e : Expr) :
    e.SameFrame (e.mapVariables change) := by
  cases e with
  | const value => exact .const value
  | var v => exact .var v (change v)
  | unary op arg => exact .unary op (sameFrame_mapVariables change arg)
  | binary family op left right =>
    exact .binary family op (sameFrame_mapVariables change left)
      (sameFrame_mapVariables change right)
  | call kind name args => exact .call kind name (sameFrame_mapVariablesOfAll change args)
  | underName expr name explicitAs =>
    exact .underName (sameFrame_mapVariables change expr) (sameFrame_mapVariables change name)
      explicitAs
  | list args => exact .list (sameFrame_mapVariablesOfAll change args)

lemma sameFrame_mapVariablesOfAll (change : Variable → Variable) (es : List Expr) :
    List.Forall₂ SameFrame es (mapVariablesOfAll change es) := by
  cases es with
  | nil => exact .nil
  | cons arg rest =>
    exact .cons (sameFrame_mapVariables change arg) (sameFrame_mapVariablesOfAll change rest)

end

/-! ### Changing the variables -/

mutual

/-- An expression whose variables are those of `e` after the change is `e` after the change,
provided it has the frame of `e`. -/
lemma SameFrame.eq_mapVariables (change : Variable → Variable) (e e' : Expr) (h : e.SameFrame e')
    (hvariables : e'.allVariables = e.allVariables.map change) : e' = e.mapVariables change := by
  cases h with
  | const value => rfl
  | var v v' => exact congrArg Expr.var (List.singleton_inj.mp hvariables)
  | @unary op arg arg' h =>
    exact congrArg (Expr.unary op) (eq_mapVariables change arg arg' h hvariables)
  | @binary family op left left' right right' hleft hright =>
    simp only [allVariables, List.map_append] at hvariables
    -- The frames settle where the variables of one side end and those of the other begin.
    obtain ⟨hl, hr⟩ := List.append_inj hvariables
      (by rw [List.length_map, length_allVariables left left' hleft])
    rw [mapVariables, eq_mapVariables change left left' hleft hl,
      eq_mapVariables change right right' hright hr]
  | @call kind name args args' h =>
    exact congrArg (Expr.call kind name) (eq_mapVariablesOfAll change args args' h hvariables)
  | @underName expr expr' name name' hexpr hname explicitAs =>
    simp only [allVariables, List.map_append] at hvariables
    obtain ⟨he, hn⟩ := List.append_inj hvariables
      (by rw [List.length_map, length_allVariables expr expr' hexpr])
    rw [mapVariables, eq_mapVariables change expr expr' hexpr he,
      eq_mapVariables change name name' hname hn]
  | @list args args' h =>
    exact congrArg Expr.list (eq_mapVariablesOfAll change args args' h hvariables)

lemma SameFrame.eq_mapVariablesOfAll (change : Variable → Variable) (es es' : List Expr)
    (h : List.Forall₂ SameFrame es es')
    (hvariables : variablesOfAll es' = (variablesOfAll es).map change) :
    es' = mapVariablesOfAll change es := by
  cases h with
  | nil => rfl
  | @cons arg arg' rest rest' h hs =>
    simp only [variablesOfAll, List.map_append] at hvariables
    obtain ⟨ha, hr⟩ := List.append_inj hvariables
      (by rw [List.length_map, length_allVariables arg arg' h])
    rw [mapVariablesOfAll, eq_mapVariables change arg arg' h ha,
      eq_mapVariablesOfAll change rest rest' hs hr]

end

/-- **Changing the variables.** To change every variable of an expression is to keep its frame and
to change what the list of its variables gives, one after the other in the same order. -/
theorem eq_mapVariables_iff (change : Variable → Variable) (e e' : Expr) :
    e' = e.mapVariables change ↔
      e.SameFrame e' ∧ e'.allVariables = e.allVariables.map change := by
  constructor
  · rintro rfl
    exact ⟨sameFrame_mapVariables change e, allVariables_mapVariables change e⟩
  · rintro ⟨hframe, hvariables⟩
    exact SameFrame.eq_mapVariables change e e' hframe hvariables

end SelectBinding.Expr
