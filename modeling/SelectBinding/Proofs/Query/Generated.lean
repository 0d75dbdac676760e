import SelectBinding.Decimal.Numeral
import SelectBinding.Proofs.Letters
import SelectBinding.Proofs.Query.Consistency

/-!
The names that are made up for expressions.

An expression without an alias goes by its number among the expressions, so no two of them go by the
same name. Columns are only ever added at the end, and an expression stays one, so the numbers stay
as they are until the query is cleared.
-/

namespace SelectBinding

namespace Query

/-- The column at `index` is an expression without an alias of its own. -/
def Unnamed (q : Query) (index : Nat) : Prop :=
  ∃ column, q.columns[index]? = some column ∧ column.kind.isExpression = true ∧
    column.aliasName = none

/-- The change clears the query or sets the alias of the column at `index`. -/
def Edit.Renames (edit : Edit) (index : Nat) : Prop :=
  edit = .clear ∨ ∃ aliasName, edit = .setColumnAlias index aliasName

/-! ### The made-up names -/

/-- How many of the columns up to the one at `index` are expressions. -/
def ordinal (q : Query) (index : Nat) : Nat :=
  (q.columns.take (index + 1)).countP fun column => column.kind.isExpression

/-- The name that is made up for the expression with a number. -/
def generatedName (number : Nat) : String :=
  "expr" ++ toString number

variable {q q' : Query} {edit : Edit} {index : Nat}

lemma Unnamed.lt_length (h : q.Unnamed index) : index < q.columns.length := by
  obtain ⟨column, hcolumn, -⟩ := h
  exact (List.getElem?_eq_some_iff.mp hcolumn).1

lemma Unnamed.columnAlias? (h : q.Unnamed index) :
    q.columnAlias? index = some (generatedName (q.ordinal index)) := by
  obtain ⟨⟨kind, aliasName, visible⟩, hcolumn, hkind, rfl⟩ := h
  cases kind with
  | expression e => simp only [Query.columnAlias?, hcolumn, generatedName, ordinal]
  | _ => cases hkind

/-- A later expression has a higher number. -/
lemma Unnamed.ordinal_lt {later : Nat} (h : q.Unnamed later) (hlt : index < later) :
    q.ordinal index < q.ordinal later := by
  obtain ⟨column, hcolumn, hkind, -⟩ := h
  have hlater : q.ordinal later =
      ((q.columns.take later).countP fun column => column.kind.isExpression) + 1 := by
    rw [ordinal, List.take_add_one, hcolumn, Option.toList_some, List.countP_append,
      List.countP_singleton, if_pos hkind]
  have hprefix : q.columns.take (index + 1) <+: q.columns.take later :=
    List.take_prefix_take_left (by omega)
  rw [hlater]
  exact Nat.lt_succ_of_le hprefix.sublist.countP_le

lemma Unnamed.ordinal_inj {other : Nat} (h : q.Unnamed index) (h' : q.Unnamed other)
    (heq : q.ordinal index = q.ordinal other) : index = other := by
  rcases Nat.lt_trichotomy index other with hlt | rfl | hlt
  · exact absurd heq (Nat.ne_of_lt (h'.ordinal_lt hlt))
  · rfl
  · exact absurd heq (Nat.ne_of_gt (h.ordinal_lt hlt))

/-- A made-up name is stored as it stands. -/
lemma fold_generatedName (number : Nat) : Name.fold (generatedName number) = generatedName number := by
  have hword : Name.fold "expr" = "expr" := by decide
  have hdigits : Name.fold (toString number) = toString number := by
    rw [← String.toList_inj, Name.toList_fold, Nat.toString_eq_repr, Nat.toList_repr]
    refine (List.map_congr_left fun c hc => ?_).trans (List.map_id _)
    exact Name.toLower_of_isDigit (List.all_eq_true.mp (Decimal.all_toDigits number) c hc)
  rw [generatedName, Name.fold_append, hword, hdigits]

/-- Only the names made up for the same number agree. -/
lemma agree_generatedName_iff {n m : Nat} :
    Name.agree (generatedName n) (generatedName m) = true ↔ n = m := by
  rw [Name.agree_iff, fold_generatedName, fold_generatedName]
  refine ⟨fun h => ?_, fun h => congrArg generatedName h⟩
  have hspelling : toString n = toString m := by
    rw [generatedName, generatedName, ← String.toList_inj] at h
    rw [String.toList_append, String.toList_append] at h
    exact String.toList_inj.mp (List.append_cancel_left h)
  exact Option.some.inj
    (by rw [← Decimal.natural?_toString, hspelling, Decimal.natural?_toString])

/-! ### What a name is known from -/

/-- The columns up to the one at `index` are expressions where they were, and this one has the alias
that it had. -/
structure SameName (index : Nat) (q q' : Query) : Prop where
  kinds : ∀ i ≤ index, (q'.columns[i]?.map fun column => column.kind.isExpression) =
    q.columns[i]?.map fun column => column.kind.isExpression
  aliasName : q'.columns[index]?.map Column.aliasName = q.columns[index]?.map Column.aliasName

namespace SameName

lemma refl (index : Nat) (q : Query) : SameName index q q :=
  ⟨fun _ _ => rfl, rfl⟩

lemma trans {q'' : Query} (h : SameName index q q') (h' : SameName index q' q'') :
    SameName index q q'' :=
  ⟨fun i hi => (h'.kinds i hi).trans (h.kinds i hi), h'.aliasName.trans h.aliasName⟩

lemma lt_length (h : SameName index q q') (hindex : index < q.columns.length) :
    index < q'.columns.length := by
  have halias := h.aliasName
  rw [List.getElem?_eq_getElem hindex, Option.map_some, Option.map_eq_some_iff] at halias
  obtain ⟨column', hcolumn', -⟩ := halias
  exact (List.getElem?_eq_some_iff.mp hcolumn').1

lemma ordinal (h : SameName index q q') : q'.ordinal index = q.ordinal index := by
  have hcount (columns : List Column) : (columns.countP fun column => column.kind.isExpression) =
      (columns.map fun column => column.kind.isExpression).countP id := by
    rw [List.countP_map]
    rfl
  rw [Query.ordinal, Query.ordinal, hcount, hcount]
  congr 1
  refine List.ext_getElem? fun i => ?_
  rw [List.getElem?_map, List.getElem?_map, List.getElem?_take, List.getElem?_take]
  split
  · exact h.kinds i (by omega)
  · rfl

/-- Renumbering the tables leaves expressions where they are. -/
lemma of_renumbered {move : Nat → Nat} (hcolumns : q'.columns = q.columns.map fun column =>
    { column with kind := column.kind.mapPositions move }) (index : Nat) :
    SameName index q q' := by
  have hkind (kind : ColumnKind) : (kind.mapPositions move).isExpression = kind.isExpression := by
    cases kind <;> rfl
  refine ⟨fun i _ => ?_, ?_⟩ <;>
    simp only [hcolumns, List.getElem?_map, Option.map_map, Function.comp_def, hkind]

/-- The name of a column is known from its alias and from which columns up to it are expressions. -/
lemma columnAlias? (h : SameName index q q') : q'.columnAlias? index = q.columnAlias? index := by
  have hkind := h.kinds index (Nat.le_refl index)
  have halias := h.aliasName
  have hordinal := h.ordinal
  unfold Query.ordinal at hordinal
  unfold Query.columnAlias?
  rw [hordinal]
  rcases hq' : q'.columns[index]? with _ | ⟨kind', aliasName', visible'⟩ <;>
    rcases hq : q.columns[index]? with _ | ⟨kind, aliasName, visible⟩ <;>
    simp only [hq, hq', Option.map_none, Option.map_some, reduceCtorEq, Option.some.injEq]
      at hkind halias
  · rfl
  · subst halias
    cases aliasName' <;> cases kind' <;> cases kind <;> first | rfl | cases hkind

lemma unnamed (h : SameName index q q') (hq : q.Unnamed index) : q'.Unnamed index := by
  obtain ⟨column, hcolumn, hkind, halias⟩ := hq
  have hkinds := h.kinds index (Nat.le_refl index)
  have haliases := h.aliasName
  rw [hcolumn, Option.map_some, Option.map_eq_some_iff] at hkinds haliases
  obtain ⟨column', hcolumn', hkind'⟩ := hkinds
  obtain ⟨column'', hcolumn'', halias'⟩ := haliases
  obtain rfl := Option.some.inj (hcolumn'.symm.trans hcolumn'')
  exact ⟨column', hcolumn', hkind'.trans hkind, halias'.trans halias⟩

end SameName

/-! ### One change -/

/-- What a change does to the columns of a query. -/
inductive ColumnsAfter (edit : Edit) (columns : List Column) : List Column → Prop
  | none (h : edit = .clear) : ColumnsAfter edit columns []
  | same : ColumnsAfter edit columns columns
  | renumbered (move : Nat → Nat) :
    ColumnsAfter edit columns
      (columns.map fun column => { column with kind := column.kind.mapPositions move })
  | added (kind : ColumnKind) (visible : Bool) :
    ColumnsAfter edit columns (columns ++ [⟨kind, none, visible⟩])
  | renamed (index : Nat) (aliasName : String) (h : edit = .setColumnAlias index aliasName)
    {column : Column} (hcolumn : columns[index]? = some column) :
    ColumnsAfter edit columns
      (columns.set index { column with aliasName := givenAlias aliasName })
  | shown (index : Nat) (visible : Bool) {column : Column}
    (hcolumn : columns[index]? = some column) :
    ColumnsAfter edit columns (columns.set index { column with visible })

/-- **One change.** A change that is accepted drops, keeps, renumbers, adds, renames or shows columns,
one of these. -/
lemma columnsAfter_of_apply (hq : q.apply edit = .ok q') :
    ColumnsAfter edit q.columns q'.columns := by
  cases edit with
  | clear =>
    obtain rfl := Except.ok.inj hq
    exact .none rfl
  | removeTable position =>
    obtain ⟨⟨left, removed⟩, hok, rfl⟩ := Except.map_eq_ok_iff.mp hq
    obtain ⟨-, -, rfl⟩ := removeTable_ok_iff.mp hok
    exact .renumbered _
  | setTableAlias position aliasName =>
    obtain ⟨source, -, rfl⟩ := setTableAlias_ok_iff.mp hq
    exact .same
  | addField table field position visible =>
    obtain ⟨rfl, -⟩ := addField_ok hq
    exact .added _ _
  | addAsterisk scope visible =>
    obtain rfl := Except.ok.inj hq
    exact .added _ _
  | addExpression expr visible =>
    obtain rfl := Except.ok.inj hq
    exact .added _ _
  | setColumnAlias index aliasName =>
    obtain ⟨column, hcolumn, rfl⟩ := changeColumn_ok_iff.mp hq
    exact .renamed index aliasName rfl hcolumn
  | setColumnVisible index visible =>
    obtain ⟨column, hcolumn, rfl⟩ := changeColumn_ok_iff.mp hq
    exact .shown index visible hcolumn
  | addTable | setFilter | setStatement =>
    obtain rfl := Except.ok.inj hq
    exact .same
  | setMaster | sortByColumn | sortByPosition | sortByField =>
    obtain ⟨-, rfl⟩ := Except.guard_eq_ok_iff.mp hq
    exact .same

lemma map_getElem?_set {β : Type} {f : Column → β} {columns : List Column} {column column' : Column}
    {j : Nat} (hcolumn : columns[j]? = some column) (i : Nat) (hf : f column' = f column) :
    (columns.set j column')[i]?.map f = columns[i]?.map f := by
  by_cases hi : j = i
  · subst hi
    obtain ⟨hlt, -⟩ := List.getElem?_eq_some_iff.mp hcolumn
    rw [List.getElem?_set_self hlt, hcolumn, Option.map_some, Option.map_some, hf]
  · rw [List.getElem?_set_ne hi]

/-- A change that neither clears the query nor sets the alias of a column leaves what its name is
known from. -/
lemma ColumnsAfter.sameName (h : ColumnsAfter edit q.columns q'.columns)
    (hindex : index < q.columns.length) (hspared : ¬ edit.Renames index) : SameName index q q' := by
  generalize hcolumns' : q'.columns = columns' at h
  cases h with
  | none hclear => exact absurd (.inl hclear) hspared
  | same => exact ⟨fun _ _ => by rw [hcolumns'], by rw [hcolumns']⟩
  | renumbered move => exact .of_renumbered hcolumns' index
  | added kind visible =>
    exact ⟨fun i hi => by rw [hcolumns', List.getElem?_append_left (by omega)],
      by rw [hcolumns', List.getElem?_append_left hindex]⟩
  | renamed j aliasName hedit hcolumn =>
    have hne : j ≠ index := by
      rintro rfl
      exact hspared (.inr ⟨aliasName, hedit⟩)
    refine ⟨fun i _ => ?_, by rw [hcolumns', List.getElem?_set_ne hne]⟩
    rw [hcolumns', map_getElem?_set hcolumn]
    rfl
  | shown j visible hcolumn =>
    refine ⟨fun i _ => ?_, ?_⟩ <;> rw [hcolumns', map_getElem?_set hcolumn] <;> rfl

/-! ### Runs of changes -/

/-- A change that is refused leaves everything as it is. -/
lemma sameName_step (hindex : index < q.columns.length) (hspared : ¬ edit.Renames index) :
    SameName index q (q.step edit) := by
  unfold step
  split
  · next q' hok => exact (columnsAfter_of_apply hok).sameName hindex hspared
  · exact .refl index q

lemma sameName_run {edits : List Edit} (hindex : index < q.columns.length)
    (hspared : ∀ edit ∈ edits, ¬ edit.Renames index) : SameName index q (q.run edits) := by
  induction edits generalizing q with
  | nil => exact .refl index q
  | cons edit edits ih =>
    obtain ⟨hfirst, hrest⟩ := List.forall_mem_cons.mp hspared
    have hstep := sameName_step hindex hfirst
    exact hstep.trans (ih (hstep.lt_length hindex) hrest)

/-- **Made-up names.** In every query an expression without an alias goes by a name that does not
agree with the name of any other such expression. It keeps this name along every run of changes,
accepted or refused, that neither clears the query nor sets the alias of this very column. -/
theorem run_keeps_generatedName {q : Query} {index : Nat} (h : q.Unnamed index) :
    ∃ name, q.columnAlias? index = some name ∧
      (∀ other name', q.Unnamed other → q.columnAlias? other = some name' →
        Name.agree name name' = true → other = index) ∧
      ∀ edits : List Edit, (∀ edit ∈ edits, ¬ edit.Renames index) →
        (q.run edits).Unnamed index ∧ (q.run edits).columnAlias? index = some name := by
  refine ⟨_, h.columnAlias?, fun other name' hother hname' hagree => ?_, fun edits hspared => ?_⟩
  · rw [hother.columnAlias?] at hname'
    obtain rfl := Option.some.inj hname'
    exact hother.ordinal_inj h (agree_generatedName_iff.mp hagree).symm
  · have hsame := sameName_run h.lt_length hspared
    exact ⟨hsame.unnamed h, hsame.columnAlias?.trans h.columnAlias?⟩

/-- A query for two expressions with an asterisk between them. -/
def twoExpressions : Query :=
  (start none).run [.addExpression (.named "owner") true, .addAsterisk none true,
    .addExpression (.named "id") true]

/-- Changes all around the second one of the expressions. -/
def changesAround : List Edit :=
  [.setColumnAlias 0 "total", .addTable { name := "accounts" } none, .setColumnVisible 2 false,
    .removeTable 0, .addExpression (.named "owner") true, .removeTable 7]

theorem run_keeps_generatedName_second :
    twoExpressions.Unnamed 2 ∧ (∀ edit ∈ changesAround, ¬ edit.Renames 2) ∧
      twoExpressions.columnAlias? 2 = some "expr2" ∧
      (twoExpressions.run changesAround).columnAlias? 2 = some "expr2" := by
  have h : twoExpressions.Unnamed 2 := ⟨_, rfl, rfl, rfl⟩
  have hspared : ∀ edit ∈ changesAround, ¬ edit.Renames 2 := by
    simp [changesAround, Edit.Renames]
  have hsecond : twoExpressions.columnAlias? 2 = some "expr2" := by decide
  obtain ⟨name, hname, -, hkept⟩ := run_keeps_generatedName h
  obtain rfl := Option.some.inj (hname.symm.trans hsecond)
  exact ⟨h, hspared, hname, (hkept changesAround hspared).2⟩

end Query

end SelectBinding
