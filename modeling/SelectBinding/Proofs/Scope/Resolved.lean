import SelectBinding.Proofs.Names
import SelectBinding.Proofs.Scope.Keys
import SelectBinding.Proofs.Scope.Nodes

/-!
Resolving binds every variable to what it stands for, which is always something that is there.
-/

namespace SelectBinding

/-! ### Bindings that find what they stand for -/

/-- One of the fields of the table is called exactly `name`, and it is the one that a search for
`name` finds. -/
def Table.Declares (table : Table) (name : String) : Prop :=
  ∃ field ∈ table.fields, field.name = name ∧ table.field? name = some field

/-- The table at `position` declares a field called exactly `name`. -/
def DeclaredAt (sources : List Source) (position : Nat) (name : String) : Prop :=
  ∃ source, sources[position]? = some source ∧ source.table.Declares name

/-- What the binding stands for is there. -/
def Binding.Valid (sources : List Source) : Binding → Prop
  | .field position name => DeclaredAt sources position name
  | .tableAsterisk position => position < sources.length
  | .allTables => True

/-- The variable is bound, to something that is there. -/
def Variable.Resolved (sources : List Source) (v : Variable) : Prop :=
  ∃ binding, v.binding = some binding ∧ binding.Valid sources

/-- Every variable of the expression is bound, to something that is there. -/
def Expr.Resolved (sources : List Source) (e : Expr) : Prop :=
  ∀ v ∈ e.allVariables, v.Resolved sources

lemma Table.agree_of_field? {table : Table} {name : String} {field : Field}
    (h : table.field? name = some field) : Name.agree field.name name = true := by
  unfold Table.field? at h
  simpa using List.find?_some h

lemma Table.declares_of_field? {table : Table} {name : String} {field : Field}
    (h : table.field? name = some field) : table.Declares field.name :=
  ⟨field, List.mem_of_find?_eq_some h, rfl, by rwa [field?_congr (agree_of_field? h)]⟩

namespace Scope

/-- Every key stands for a table that is there. -/
def KeysInRange (scope : Scope) : Prop :=
  ∀ entry ∈ scope.keys, entry.2 < scope.sources.length

lemma keysInRange_ofKeyed (tables : List (Source × String)) : (ofKeyed tables).KeysInRange := by
  intro entry he
  obtain ⟨⟨keyed, position⟩, hmem, rfl⟩ := List.mem_map.mp he
  obtain ⟨hlt, -⟩ := List.getElem?_eq_some_iff.mp (List.mem_zipIdx_iff_getElem?.mp hmem)
  simpa [ofKeyed] using hlt

lemma KeysInRange.lt {scope : Scope} (h : scope.KeysInRange) {key : String} {p : Nat}
    (hp : p ∈ scope.positionsFor key) : p < scope.sources.length := by
  obtain ⟨entry, he, rfl⟩ := List.mem_map.mp hp
  exact h entry ((List.mem_filter.mp he).1)

variable {scope : Scope}

lemma bindField_valid {name : String} {b : Binding} (h : scope.bindField name = .ok b) :
    b.Valid scope.sources := by
  obtain ⟨p, source, field, howner, rfl⟩ := bindField_ok_iff.mp h
  exact ⟨source, howner.at_, Table.declares_of_field? howner.has⟩

lemma bindQualified_valid (hkeys : scope.KeysInRange) {table name : String} {b : Binding}
    (h : scope.bindQualified table name = .ok b) : b.Valid scope.sources := by
  obtain ⟨-, h⟩ := bindQualified_ok_iff.mp h
  obtain ⟨p, hp, h⟩ := bindByKey_ok_iff.mp h
  split at h
  · subst h
    have hmem : p ∈ scope.positionsFor table := by simp [hp]
    exact hkeys.lt hmem
  · obtain ⟨source, field, hat, hfield, rfl⟩ := bindFieldAt_ok_iff.mp h
    exact ⟨source, hat, Table.declares_of_field? hfield⟩

/-- **Names.** A name is bound to something that is there. -/
lemma bind_valid (hkeys : scope.KeysInRange) {v : Variable} {b : Binding}
    (h : scope.bind v = .ok b) : b.Valid scope.sources := by
  rw [bind_ok_iff] at h
  unfold bindParts at h
  split at h
  · obtain rfl := Except.ok.inj h
    trivial
  · exact bindField_valid h
  · exact bindQualified_valid hkeys h
  · simp at h

/-- The variable `v'` is `v` bound to what it stands for. -/
def BindsTo (scope : Scope) (v v' : Variable) : Prop :=
  ∃ b, scope.bind v = .ok b ∧ v' = { v with binding := some b }

lemma resolveVariable_bindsTo {asterisk : Bool} {v v' : Variable}
    (h : scope.resolveVariable asterisk v = .ok v') : scope.BindsTo v v' := by
  unfold resolveVariable at h
  split at h
  · simp at h
  · obtain ⟨b, hb, rfl⟩ := Except.map_eq_ok_iff.mp h
    exact ⟨b, hb, rfl⟩

/-- **Variables.** Resolving binds each variable of an expression to what it stands for. -/
lemma resolve_variables (scope : Scope) (asterisk : Bool) (e e' : Expr)
    (h : scope.resolve asterisk e = .ok e') :
    List.Forall₂ scope.BindsTo e.allVariables e'.allVariables := by
  rw [eq_mapVariables_of_resolve h, Expr.allVariables_mapVariables, List.forall₂_map_right_iff,
    List.forall₂_same]
  intro v hv
  obtain ⟨b, hb⟩ := binds_of_resolve h hv
  exact ⟨b, hb, by simp [bound, hb, Except.toOption]⟩

/-- **Expressions.** Resolving leaves every variable bound to something that is there. -/
lemma resolve_resolved (hkeys : scope.KeysInRange) (asterisk : Bool) (e e' : Expr)
    (h : scope.resolve asterisk e = .ok e') : e'.Resolved scope.sources := by
  intro v' hv'
  obtain ⟨v, -, b, hb, rfl⟩ := exists_left_of_forall₂ (scope.resolve_variables asterisk e e' h) hv'
  exact ⟨b, rfl, bind_valid hkeys hb⟩

end Scope

end SelectBinding
