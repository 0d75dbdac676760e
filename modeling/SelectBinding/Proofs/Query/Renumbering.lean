import Mathlib.Data.List.Forall2
import SelectBinding.Proofs.Query.Variables

/-!
Queries that differ in the positions of tables alone.

A position stands in a column for a field, in the scope of an asterisk, in the binding of a variable
at any depth of an expression and in a sorting criterion. Two queries are renumbered by a relation
when it holds between the positions that stand in the same place, and everything else is the same.
-/

namespace SelectBinding

variable {R : Nat → Nat → Prop}

/-! ### The relation -/

/-- The bindings are the same but for the position of the table. -/
inductive Binding.Renumbered (R : Nat → Nat → Prop) : Binding → Binding → Prop where
  | field {p p' : Nat} (name : String) (h : R p p') : Renumbered R (.field p name) (.field p' name)
  | tableAsterisk {p p' : Nat} (h : R p p') :
    Renumbered R (.tableAsterisk p) (.tableAsterisk p')
  | allTables : Renumbered R .allTables .allTables

/-- The variables are the same but for the position of the table they are bound to. -/
structure Variable.Renumbered (R : Nat → Nat → Prop) (v v' : Variable) : Prop where
  parts : v'.parts = v.parts
  position : v'.position = v.position
  binding : Option.Rel (Binding.Renumbered R) v.binding v'.binding

/-- The expressions are the same but for the positions that their variables are bound to. -/
inductive Expr.Renumbered (R : Nat → Nat → Prop) : Expr → Expr → Prop where
  | const (value : Constant) : Renumbered R (.const value) (.const value)
  | var {v v' : Variable} (h : v.Renumbered R v') : Renumbered R (.var v) (.var v')
  | unary (op : UnaryOp) {arg arg' : Expr} (h : Renumbered R arg arg') :
    Renumbered R (.unary op arg) (.unary op arg')
  | binary (family : Family) (op : BinaryOp) {left left' right right' : Expr}
      (hleft : Renumbered R left left') (hright : Renumbered R right right') :
    Renumbered R (.binary family op left right) (.binary family op left' right')
  | call (kind : CallKind) (name : String) {args args' : List Expr}
      (h : List.Forall₂ (Renumbered R) args args') :
    Renumbered R (.call kind name args) (.call kind name args')
  | underName {expr expr' name name' : Expr} (hexpr : Renumbered R expr expr')
      (hname : Renumbered R name name') (explicitAs : Bool) :
    Renumbered R (.underName expr name explicitAs) (.underName expr' name' explicitAs)
  | list {args args' : List Expr} (h : List.Forall₂ (Renumbered R) args args') :
    Renumbered R (.list args) (.list args')

/-- What the columns stand for is the same but for positions. -/
inductive ColumnKind.Renumbered (R : Nat → Nat → Prop) : ColumnKind → ColumnKind → Prop where
  | field (table : Table) (name : String) {position position' : Option Nat}
      (h : Option.Rel R position position') :
    Renumbered R (.field ⟨table, name, position⟩) (.field ⟨table, name, position'⟩)
  | asterisk {scope scope' : Option Nat} (h : Option.Rel R scope scope') :
    Renumbered R (.asterisk scope) (.asterisk scope')
  | expression {e e' : Expr} (h : e.Renumbered R e') :
    Renumbered R (.expression e) (.expression e')

/-- The columns are the same but for positions. -/
structure Column.Renumbered (R : Nat → Nat → Prop) (column column' : Column) : Prop where
  kind : column.kind.Renumbered R column'.kind
  aliasName : column'.aliasName = column.aliasName
  visible : column'.visible = column.visible

/-- The targets are the same but for the position of the table. -/
inductive SortTarget.Renumbered (R : Nat → Nat → Prop) : SortTarget → SortTarget → Prop where
  | column (index : Nat) : Renumbered R (.column index) (.column index)
  | number (index : Nat) : Renumbered R (.number index) (.number index)
  | field {p p' : Nat} (h : R p p') (name : String) :
    Renumbered R (.field p name) (.field p' name)

/-- The sorting criteria are the same but for positions. -/
structure SortKey.Renumbered (R : Nat → Nat → Prop) (key key' : SortKey) : Prop where
  target : key.target.Renumbered R key'.target
  ascending : key'.ascending = key.ascending

/-- The queries are the same but for their tables, which of them is declared the master, and the
positions. -/
structure Query.Renumbered (R : Nat → Nat → Prop) (q q' : Query) : Prop where
  columns : List.Forall₂ (Column.Renumbered R) q.columns q'.columns
  filter : Option.Rel (Expr.Renumbered R) q.filter q'.filter
  ordering : List.Forall₂ (SortKey.Renumbered R) q.ordering q'.ordering
  statement : q'.statement = q.statement

/-! ### Renumbering by a function -/

variable {move : Nat → Nat}

lemma rel_map {position : Option Nat} (h : ∀ p, position = some p → R p (move p)) :
    Option.Rel R position (position.map move) := by
  cases position with
  | none => exact .none
  | some p => exact .some (h p rfl)

lemma Binding.renumbered_mapPosition {b : Binding}
    (h : ∀ p, b.position? = some p → R p (move p)) : b.Renumbered R (b.mapPosition move) := by
  cases b with
  | field p name => exact .field name (h p rfl)
  | tableAsterisk p => exact .tableAsterisk (h p rfl)
  | allTables => exact .allTables

/-- The relation holds between a position that the variable is bound to and what becomes of it. -/
def Variable.Moves (R : Nat → Nat → Prop) (move : Nat → Nat) (v : Variable) : Prop :=
  ∀ p, v.binding.bind Binding.position? = some p → R p (move p)

lemma Variable.Moves.renumbered {v : Variable} (h : v.Moves R move) :
    v.Renumbered R (v.mapPositions move) where
  parts := rfl
  position := rfl
  binding := by
    obtain ⟨parts, position, binding⟩ := v
    cases binding with
    | none => exact .none
    | some b => exact .some (Binding.renumbered_mapPosition h)

namespace Expr

mutual

lemma renumbered_mapPositions (e : Expr) (h : ∀ v ∈ e.allVariables, v.Moves R move) :
    e.Renumbered R (e.mapPositions move) := by
  cases e with
  | const value => exact .const value
  | var v => exact .var (Variable.Moves.renumbered (h v (List.mem_singleton.mpr rfl)))
  | unary op arg => exact .unary op (renumbered_mapPositions arg h)
  | binary family op left right =>
    have h := List.forall_mem_append.mp h
    exact .binary family op (renumbered_mapPositions left h.1) (renumbered_mapPositions right h.2)
  | call kind name args => exact .call kind name (renumbered_mapPositionsOfAll args h)
  | underName expr name explicitAs =>
    have h := List.forall_mem_append.mp h
    exact .underName (renumbered_mapPositions expr h.1) (renumbered_mapPositions name h.2)
      explicitAs
  | list args => exact .list (renumbered_mapPositionsOfAll args h)

lemma renumbered_mapPositionsOfAll (es : List Expr)
    (h : ∀ v ∈ variablesOfAll es, v.Moves R move) :
    List.Forall₂ (Renumbered R) es (mapVariablesOfAll (Variable.mapPositions move) es) := by
  cases es with
  | nil => exact .nil
  | cons arg rest =>
    have h := List.forall_mem_append.mp h
    exact .cons (renumbered_mapPositions arg h.1) (renumbered_mapPositionsOfAll rest h.2)

end

end Expr

lemma Expr.renumbered_of_refersTo {e : Expr} (h : ∀ p, e.refersTo p = true → R p (move p)) :
    e.Renumbered R (e.mapPositions move) := by
  refine renumbered_mapPositions e fun v hv p hp => h p ?_
  exact List.any_eq_true.mpr ⟨v, hv, by simp [hp]⟩

lemma ColumnKind.renumbered_mapPositions {kind : ColumnKind}
    (h : ∀ p, kind.refersTo p = true → R p (move p)) :
    kind.Renumbered R (kind.mapPositions move) := by
  cases kind with
  | field column =>
    refine .field column.table column.field (rel_map fun p hp => h p ?_)
    simp [refersTo, hp]
  | asterisk scope =>
    refine .asterisk (rel_map fun p hp => h p ?_)
    simp [refersTo, hp]
  | expression e => exact .expression (Expr.renumbered_of_refersTo h)

lemma SortTarget.renumbered_mapPositions {target : SortTarget}
    (h : ∀ p, target.refersTo p = true → R p (move p)) :
    target.Renumbered R (target.mapPositions move) := by
  cases target with
  | column index => exact .column index
  | number index => exact .number index
  | field p name => exact .field (h p (by simp [refersTo])) name

/-- **Renumbering.** A renumbering changes the positions that a query refers to, each in the same
way, and nothing else. -/
lemma Query.renumbered_mapPositions {q : Query} (h : ∀ p, q.refersTo p = true → R p (move p)) :
    q.Renumbered R (q.mapPositions move) := by
  have hrefers (p : Nat) : q.refersTo p = true ↔
      ((∃ column ∈ q.columns, column.kind.refersTo p = true) ∨
        (∃ e, q.filter = some e ∧ e.refersTo p = true)) ∨
      ∃ key ∈ q.ordering, key.target.refersTo p = true := by
    simp only [refersTo, Bool.or_eq_true, List.any_eq_true, Option.any_eq_true]
  refine ⟨?_, ?_, ?_, rfl⟩
  · refine List.forall₂_map_right_iff.mpr (List.forall₂_same.mpr fun column hcolumn => ?_)
    refine ⟨ColumnKind.renumbered_mapPositions fun p hp => h p ?_, rfl, rfl⟩
    exact (hrefers p).mpr (.inl (.inl ⟨column, hcolumn, hp⟩))
  · cases hfilter : q.filter with
    | none => simp [mapPositions, hfilter]
    | some e =>
      simp only [mapPositions, hfilter, Option.map_some]
      refine .some (Expr.renumbered_of_refersTo fun p hp => h p ?_)
      exact (hrefers p).mpr (.inl (.inr ⟨e, hfilter, hp⟩))
  · refine List.forall₂_map_right_iff.mpr (List.forall₂_same.mpr fun key hkey => ?_)
    refine ⟨SortTarget.renumbered_mapPositions fun p hp => h p ?_, rfl⟩
    exact (hrefers p).mpr (.inr ⟨key, hkey, hp⟩)

end SelectBinding
