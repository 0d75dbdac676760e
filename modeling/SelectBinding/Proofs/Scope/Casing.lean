import SelectBinding.Proofs.Alike
import SelectBinding.Proofs.Letters
import SelectBinding.Proofs.Scope.Resolved

/-!
What names stand for without the case of their letters.

Folding takes the case away from the parts of names and from aliases; what a name is bound to and
where it stands are kept, and so are the names that tables and fields are declared with. Names stand
for the same after folding, an expression resolves to the folded one, and what fails before folding
fails in the same way after it.
-/

namespace SelectBinding

/-! ### Folding -/

/-- The name with its parts folded. -/
def Variable.folded (v : Variable) : Variable :=
  { v with parts := v.parts.map Name.fold }

/-- The expression with its names folded. -/
def Expr.folded (e : Expr) : Expr :=
  e.mapVariables Variable.folded

/-- The table under its folded alias. -/
def Source.folded (source : Source) : Source :=
  { source with aliasName := source.aliasName.map Name.fold }

/-- The scope with its aliases folded; keys are folded always. -/
def Scope.folded (scope : Scope) : Scope :=
  { scope with sources := scope.sources.map Source.folded }

namespace Variable

lemma name_folded (v : Variable) : v.folded.name = Name.fold v.name :=
  Name.dotted_map_fold v.parts

@[simp] lemma isAsterisk_folded (v : Variable) : v.folded.isAsterisk = v.isAsterisk := by
  have hname : v.folded.fieldName = Name.fold v.fieldName := Name.last_map_fold v.parts
  rw [isAsterisk, isAsterisk, hname, Bool.eq_iff_iff, beq_iff_eq, beq_iff_eq,
    Name.fold_eq_asterisk_iff]

end Variable

namespace Table

@[simp] lemma field?_fold (table : Table) (name : String) :
    table.field? (Name.fold name) = table.field? name :=
  field?_congr (Name.agree_fold name) table

@[simp] lemma hasName_fold (table : Table) (name : String) :
    table.hasName (Name.fold name) = table.hasName name :=
  Name.agree_fold_right table.name name

end Table

@[simp] lemma Catalog.lookup?_fold (catalog : Catalog) (name : String) :
    catalog.lookup? (Name.fold name) = catalog.lookup? name :=
  lookup?_congr (Name.agree_fold name) catalog

@[simp] lemma Source.table_folded (source : Source) : source.folded.table = source.table := rfl

namespace Scope

variable (scope : Scope)

/-! ### Names without a qualifier -/

lemma bindFieldFrom_folded (name : String) (found : Option (Nat × Table × Field)) (position : Nat)
    (sources : List Source) :
    Mirrors id (bindFieldFrom name found position sources)
      (bindFieldFrom (Name.fold name) found position (sources.map Source.folded)) := by
  -- What was found so far is a declared table and field, which folding does not touch.
  induction sources generalizing found position with
  | nil =>
    cases found with
    | none => exact .error ⟨rfl, rfl⟩
    | some found => exact .ok _
  | cons source rest ih =>
    have hfolded : source.folded.table.field? (Name.fold name) = source.table.field? name :=
      source.table.field?_fold name
    cases hfield : source.table.field? name with
    | none =>
      rw [hfield] at hfolded
      simp only [List.map_cons, bindFieldFrom, hfield, hfolded]
      exact ih found (position + 1)
    | some field =>
      rw [hfield] at hfolded
      cases found with
      | none =>
        simp only [List.map_cons, bindFieldFrom, hfield, hfolded]
        exact ih _ (position + 1)
      | some found =>
        obtain ⟨first, table, kept⟩ := found
        cases hsame : table.same source.table with
        | true =>
          have hsame' : table.same source.folded.table = true := hsame
          simp only [List.map_cons, bindFieldFrom, hfield, hfolded, hsame, hsame', if_true]
          exact ih _ (position + 1)
        | false =>
          have hsame' : table.same source.folded.table = false := hsame
          simp only [List.map_cons, bindFieldFrom, hfield, hfolded, hsame, hsame',
            Bool.false_eq_true, if_false]
          exact .error ⟨rfl, rfl⟩

/-! ### Names after a qualifier -/

lemma hidingAlias?_folded (key : String) (source : Source) :
    hidingAlias? (Name.fold key) source.folded = (hidingAlias? key source).map Name.fold := by
  unfold hidingAlias? Source.folded
  cases source.aliasName with
  | none => rfl
  | some aliasName =>
    by_cases h : Name.agree aliasName key <;> simp [Option.filter_some, h]

lemma coveringAlias?_folded (key : String) :
    scope.folded.coveringAlias? (Name.fold key) = (scope.coveringAlias? key).map Name.fold := by
  have huses : (scope.folded.sources.filter fun source => source.table.hasName (Name.fold key)) =
      (scope.sources.filter fun source => source.table.hasName key).map Source.folded := by
    simp only [folded, List.filter_map, Function.comp_def, Source.table_folded, Table.hasName_fold]
  simp only [coveringAlias?, huses, List.all_map, Function.comp_def, hidingAlias?_folded,
    Option.isSome_map, List.getLast?_map]
  split
  · cases (scope.sources.filter fun source => source.table.hasName key).getLast? with
    | none => rfl
    | some source => exact hidingAlias?_folded key source
  · rfl

lemma positionsFor_folded (key : String) :
    scope.folded.positionsFor (Name.fold key) = scope.positionsFor key := by
  simp only [positionsFor, folded, Name.fold_fold]

lemma bindFieldAt_folded (key name : String) (position : Nat) :
    Mirrors id (scope.bindFieldAt key name position)
      (scope.folded.bindFieldAt (Name.fold key) (Name.fold name) position) := by
  have hfield : ((scope.folded.sources[position]?).bind fun source =>
      source.table.field? (Name.fold name)) =
      (scope.sources[position]?).bind fun source => source.table.field? name := by
    simp only [folded, List.getElem?_map, Option.bind_map, Function.comp_def, Source.table_folded,
      Table.field?_fold]
  unfold bindFieldAt
  rw [hfield]
  split
  · exact .ok _
  · exact .error ⟨rfl, rfl⟩

lemma bindByKey_folded (key name : String) :
    Mirrors id (scope.bindByKey key name)
      (scope.folded.bindByKey (Name.fold key) (Name.fold name)) := by
  have hnamed : (scope.folded.sources.any fun source => source.table.hasName (Name.fold key)) =
      scope.sources.any fun source => source.table.hasName key := by
    simp only [folded, List.any_map, Function.comp_def, Source.table_folded, Table.hasName_fold]
  unfold bindByKey
  simp only [positionsFor_folded, hnamed, Name.fold_eq_asterisk_iff]
  split
  · split <;> exact .error ⟨rfl, rfl⟩
  · split
    · exact .ok _
    · exact scope.bindFieldAt_folded key name _
  · exact .error ⟨rfl, rfl⟩

lemma bindQualified_folded (key name : String) :
    Mirrors id (scope.bindQualified key name)
      (scope.folded.bindQualified (Name.fold key) (Name.fold name)) := by
  unfold bindQualified
  rw [coveringAlias?_folded]
  cases scope.coveringAlias? key with
  | none => exact scope.bindByKey_folded key name
  | some aliasName => exact .error ⟨rfl, rfl⟩

/-! ### Names -/

lemma bindParts_folded (parts : List String) :
    Mirrors id (scope.bindParts parts) (scope.folded.bindParts (parts.map Name.fold)) := by
  rcases parts with _ | ⟨first, _ | ⟨second, _ | ⟨further, rest⟩⟩⟩
  · exact .error ⟨rfl, rfl⟩
  · by_cases hasterisk : first = "*"
    · subst hasterisk
      exact .ok _
    · have hfolded : Name.fold first ≠ "*" := by simpa using hasterisk
      rw [List.map_singleton, bindParts_bare hasterisk, bindParts_bare hfolded]
      exact bindFieldFrom_folded first none 0 scope.sources
  · rw [List.map_cons, List.map_singleton, bindParts_qualified, bindParts_qualified]
    exact scope.bindQualified_folded first second
  · rw [bindParts_other (by simp) (by simp), bindParts_other (by simp) (by simp)]
    exact .error ⟨rfl, rfl⟩

/-- **Names.** A name stands for the same after folding. -/
lemma bind_folded (v : Variable) : Mirrors id (scope.bind v) (scope.folded.bind v.folded) :=
  Except.Alike.mapError ((scope.bindParts_folded v.parts).mono (fun _ _ he => ⟨he.1, rfl⟩)
    fun _ _ => id)

/-! ### Expressions -/

lemma resolveVariable_folded (asterisk : Bool) (v : Variable) :
    Mirrors Variable.folded (scope.resolveVariable asterisk v)
      (scope.folded.resolveVariable asterisk v.folded) := by
  unfold resolveVariable
  rw [Variable.isAsterisk_folded]
  split
  · exact .error ⟨rfl, rfl⟩
  · exact (scope.bind_folded v).map fun _ => rfl

mutual

/-- **Expressions.** An expression resolves to the folded one after folding. -/
lemma resolve_folded (asterisk : Bool) (e : Expr) :
    Mirrors Expr.folded (scope.resolve asterisk e) (scope.folded.resolve asterisk e.folded) := by
  cases e with
  | const value => exact .ok _
  | var v => exact (scope.resolveVariable_folded asterisk v).map fun _ => rfl
  | unary op arg => exact (resolve_folded false arg).map fun _ => rfl
  | binary family op left right =>
    simp only [Expr.folded, Expr.mapVariables, resolve]
    rcases (resolve_folded false left).cases with ⟨left', h, h'⟩ | ⟨e, e', h, h', hplace⟩
    · rw [h, ← Expr.folded, h']
      exact (resolve_folded false right).map fun _ => rfl
    · rw [h, ← Expr.folded, h']
      exact .error hplace
  | call kind name args =>
    cases kind with
    | function => exact (resolveAll_folded false args).map fun _ => rfl
    | aggregate => exact (resolveAll_folded true args).map fun _ => rfl
  | underName expr name explicitAs => exact .error ⟨rfl, rfl⟩
  | list args => exact (resolveAll_folded false args).map fun _ => rfl

lemma resolveAll_folded (asterisk : Bool) (es : List Expr) :
    Mirrors (Expr.mapVariablesOfAll Variable.folded) (scope.resolveAll asterisk es)
      (scope.folded.resolveAll asterisk (Expr.mapVariablesOfAll Variable.folded es)) := by
  cases es with
  | nil => exact .ok _
  | cons e es =>
    simp only [Expr.mapVariablesOfAll, resolveAll]
    rcases (resolve_folded asterisk e).cases with ⟨e', h, h'⟩ | ⟨e, e', h, h', hplace⟩
    · rw [h, ← Expr.folded, h']
      exact (resolveAll_folded asterisk es).map fun _ => rfl
    · rw [h, ← Expr.folded, h']
      exact .error hplace

end

end Scope

end SelectBinding
