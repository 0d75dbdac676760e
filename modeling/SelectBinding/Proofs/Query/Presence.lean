import Mathlib.Data.List.Infix
import SelectBinding.Proofs.Query.Consistency

/-!
Columns whose table is still there.

A column for a field of the table at a position keeps that table in the query. A column for a field
of a table at no certain position does not: the last use of its table may be removed. No other
change parts a column from its table, so a run keeps every column with its table exactly as long as
it removes no such use.
-/

namespace SelectBinding

namespace Query

/-- Every column for a field is for a field of a table of the query. -/
def TablesPresent (q : Query) : Prop :=
  ∀ column ∈ q.columns, ∀ f, column.kind = .field f → q.uses f.table = true

/-- The change removes the last use of a table that some column has a field of, at no certain
position. -/
def Strands (q : Query) (edit : Edit) : Prop :=
  ∃ position q' removed, edit = .removeTable position ∧
    q.removeTable position = .ok (q', removed) ∧
    ∃ column ∈ q.columns, ∃ f, column.kind = .field f ∧ f.position = none ∧
      removed.table.same f.table = true ∧ q'.uses f.table = false

/-! ### One change -/

/-- The table of a column with a position is a table of the query. -/
lemma Consistent.uses_of_position {q : Query} (h : q.Consistent) {column : Column}
    (hcolumn : column ∈ q.columns) {f : FieldColumn} {p : Nat} (hkind : column.kind = .field f)
    (hp : f.position = some p) : q.uses f.table = true := by
  obtain ⟨source, hsource, hsame⟩ := h.placed column hcolumn f p hkind hp
  exact uses_iff.mpr ⟨source, List.mem_of_getElem? hsource, Table.same_symm hsame⟩

/-- A change that keeps every table may add columns for fields of tables that are there. -/
lemma TablesPresent.grow {q q' : Query} (h : q.TablesPresent)
    (htables : ∀ table, q.uses table = true → q'.uses table = true)
    (hcolumns : ∀ column ∈ q'.columns, ∀ f, column.kind = .field f →
      q'.uses f.table = true ∨ ∃ old ∈ q.columns, old.kind = .field f) : q'.TablesPresent := by
  intro column hcolumn f hkind
  rcases hcolumns column hcolumn f hkind with huses | ⟨old, hold, hkind'⟩
  · exact huses
  · exact htables f.table (h old hold f hkind')

lemma TablesPresent.addTable {q : Query} (h : q.TablesPresent) (table : Table)
    (aliasName : Option String) : (q.addTable table aliasName).TablesPresent := by
  refine h.grow (fun other hother => ?_) fun column hcolumn f hkind => .inr ⟨column, hcolumn, hkind⟩
  simp only [uses, Query.addTable, List.any_append] at hother ⊢
  simp [hother]

lemma TablesPresent.addColumn {q : Query} (h : q.TablesPresent) {kind : ColumnKind}
    (hkind : ∀ f, kind = .field f → q.uses f.table = true) (visible : Bool) :
    (q.addColumn kind visible).TablesPresent := by
  refine h.grow (fun _ hother => hother) fun column hcolumn f hf => ?_
  rcases List.mem_append.mp hcolumn with hcolumn | hcolumn
  · exact .inr ⟨column, hcolumn, hf⟩
  · obtain rfl := List.mem_singleton.mp hcolumn
    exact .inl (hkind f hf)

lemma TablesPresent.addField {q q' : Query} (h : q.TablesPresent) {table : Table} {field : String}
    {position : Option Nat} {visible : Bool}
    (hq : q.addField table field position visible = .ok q') : q'.TablesPresent := by
  obtain ⟨rfl, huses, -⟩ := addField_ok hq
  refine h.addColumn (fun f hf => ?_) visible
  obtain rfl := ColumnKind.field.inj hf
  exact huses

lemma TablesPresent.setTableAlias {q q' : Query} (h : q.TablesPresent) {position : Nat}
    {name : String} (hq : q.setTableAlias position name = .ok q') : q'.TablesPresent := by
  obtain ⟨source, hsource, rfl⟩ := setTableAlias_ok_iff.mp hq
  have htables := map_table_set hsource (givenAlias name)
  exact h.grow (fun table huses => by rwa [uses_congr htables])
    fun column hcolumn f hkind => .inr ⟨column, hcolumn, hkind⟩

lemma TablesPresent.changeColumn {q q' : Query} (h : q.TablesPresent) {index : Nat}
    {change : Column → Column} (hchange : ∀ column, (change column).kind = column.kind)
    (hq : q.changeColumn index change = .ok q') : q'.TablesPresent := by
  obtain ⟨old, hold, rfl⟩ := changeColumn_ok_iff.mp hq
  refine h.grow (fun _ huses => huses) fun column hcolumn f hkind => .inr ?_
  rcases List.mem_or_eq_of_mem_set hcolumn with hcolumn | rfl
  · exact ⟨column, hcolumn, hkind⟩
  · exact ⟨old, List.mem_of_getElem? hold, by rw [← hchange, hkind]⟩

/-- A table that goes with the source at a position is the table of that source. -/
lemma same_of_uses_lost {sources : List Source} {position : Nat} {removed : Source} {table : Table}
    (hremoved : sources[position]? = some removed)
    (huses : (sources.any fun source => source.table.same table) = true)
    (hlost : ((sources.eraseIdx position).any fun source => source.table.same table) = false) :
    removed.table.same table = true := by
  obtain ⟨source, hsource, hsame⟩ := List.any_eq_true.mp huses
  obtain ⟨i, hi⟩ := List.mem_iff_getElem?.mp hsource
  by_cases hne : i = position
  · subst hne
    obtain rfl := Option.some.inj (hremoved.symm.trans hi)
    exact hsame
  · have hleft := eraseIdx_positionWithout sources hne
    rw [hi] at hleft
    simpa [hsame] using List.any_eq_false.mp hlost source (List.mem_of_getElem? hleft)

/-- Removing a table parts a column from its table only where it removes the last use of a table
that a column has a field of at no certain position. -/
lemma tablesPresent_removeTable_iff {q q' : Query} {position : Nat} {removed : Source}
    (hq : q.Consistent) (h : q.TablesPresent)
    (hok : q.removeTable position = .ok (q', removed)) :
    q'.TablesPresent ↔ ¬ q.Strands (.removeTable position) := by
  have hq' := hq.removeTable hok
  obtain ⟨hremoved, -, hleft⟩ := removeTable_ok_iff.mp hok
  have hsources : q'.sources = q.sources.eraseIdx position := by rw [hleft]
  have hcolumns : q'.columns = q.columns.map fun column =>
      { column with kind := column.kind.mapPositions (positionWithout position) } := by rw [hleft]; rfl
  constructor
  · rintro hpresent ⟨p, q'', removed', hp, hok', column, hcolumn, f, hkind, hunplaced, -, hlost⟩
    obtain rfl := Edit.removeTable.inj hp
    obtain ⟨rfl, -⟩ := Prod.mk.inj (Except.ok.inj (hok.symm.trans hok'))
    have hmoved := hpresent _ (hcolumns ▸ List.mem_map_of_mem hcolumn) f (by
      obtain ⟨table, field, position⟩ := f
      obtain rfl : position = none := hunplaced
      simp [hkind, ColumnKind.mapPositions])
    simp [hmoved] at hlost
  · intro hkeeps column' hcolumn' f' hkind'
    obtain ⟨column, hcolumn, rfl⟩ := List.mem_map.mp (hcolumns ▸ hcolumn')
    cases hposition : f'.position with
    | some p => exact hq'.uses_of_position hcolumn' hkind' hposition
    | none =>
      obtain ⟨f, hkind, rfl⟩ : ∃ f, column.kind = .field f ∧
          { f with position := f.position.map (positionWithout position) } = f' := by
        cases hkind : column.kind <;> simp_all [ColumnKind.mapPositions]
      by_contra hlost
      rw [Bool.not_eq_true] at hlost
      refine hkeeps ⟨position, q', removed, rfl, hok, column, hcolumn, f, hkind,
        by simpa using hposition, ?_, hlost⟩
      exact same_of_uses_lost hremoved (h column hcolumn f hkind) (by rwa [uses, hsources] at hlost)

/-- **One change.** A change parts a column from its table exactly when it strands one. -/
lemma tablesPresent_step_iff {q : Query} (hq : q.Consistent) (h : q.TablesPresent) (edit : Edit) :
    (q.step edit).TablesPresent ↔ ¬ q.Strands edit := by
  have hkeeps (hother : ∀ position, edit ≠ .removeTable position)
      (hpresent : (q.step edit).TablesPresent) :
      (q.step edit).TablesPresent ↔ ¬ q.Strands edit := by
    refine iff_of_true hpresent ?_
    rintro ⟨position, -, -, rfl, -⟩
    exact hother position rfl
  cases happly : q.apply edit with
  | error e =>
    have hstep : q.step edit = q := by simp [step, happly]
    rw [hstep]
    refine iff_of_true h ?_
    rintro ⟨position, q', removed, rfl, hok, -⟩
    simp [apply, hok, Except.map] at happly
  | ok q' =>
    have hstep : q.step edit = q' := by simp [step, happly]
    rw [hstep] at hkeeps ⊢
    cases edit with
    | clear =>
      obtain rfl := Except.ok.inj happly
      exact hkeeps (by simp) (by simp [TablesPresent, empty])
    | addTable table aliasName =>
      obtain rfl := Except.ok.inj happly
      exact hkeeps (by simp) (h.addTable table aliasName)
    | removeTable position =>
      obtain ⟨⟨left, removed⟩, hok, rfl⟩ := Except.map_eq_ok_iff.mp happly
      exact tablesPresent_removeTable_iff hq h hok
    | setTableAlias position aliasName => exact hkeeps (by simp) (h.setTableAlias happly)
    | setMaster table =>
      obtain ⟨-, rfl⟩ := Except.guard_eq_ok_iff.mp happly
      exact hkeeps (by simp) h
    | addField table field position visible => exact hkeeps (by simp) (h.addField happly)
    | addAsterisk scope visible =>
      obtain rfl := Except.ok.inj happly
      exact hkeeps (by simp) (h.addColumn (by simp) visible)
    | addExpression expr visible =>
      obtain rfl := Except.ok.inj happly
      exact hkeeps (by simp) (h.addColumn (by simp) visible)
    | setColumnAlias index aliasName =>
      have happly : q.changeColumn index (fun c => { c with aliasName := givenAlias aliasName }) =
        .ok q' := happly
      refine hkeeps (by simp) (h.changeColumn ?_ happly)
      exact fun _ => rfl
    | setColumnVisible index visible =>
      have happly : q.changeColumn index (fun c => { c with visible }) = .ok q' := happly
      refine hkeeps (by simp) (h.changeColumn ?_ happly)
      exact fun _ => rfl
    | setFilter filter =>
      obtain rfl := Except.ok.inj happly
      exact hkeeps (by simp) h
    | sortByColumn index ascending =>
      obtain ⟨-, rfl⟩ := Except.guard_eq_ok_iff.mp happly
      exact hkeeps (by simp) h
    | sortByPosition index ascending =>
      obtain ⟨-, rfl⟩ := Except.guard_eq_ok_iff.mp happly
      exact hkeeps (by simp) h
    | sortByField position field ascending =>
      obtain ⟨-, rfl⟩ := Except.guard_eq_ok_iff.mp happly
      exact hkeeps (by simp) h
    | setStatement statement =>
      obtain rfl := Except.ok.inj happly
      exact hkeeps (by simp) h

/-! ### Runs of changes -/

lemma run_concat (q : Query) (edits : List Edit) (edit : Edit) :
    q.run (edits ++ [edit]) = (q.run edits).step edit := by
  simp [run]

lemma tablesPresent_start (table : Option Table) : (start table).TablesPresent := by
  cases table with
  | none => simp [TablesPresent, start, empty]
  | some table => simp [TablesPresent, start, ofTable, addAsterisk, Query.addColumn, Query.addTable, empty]

/-- **Runs.** Along a run of changes every column stays with its table exactly when no change of
the run strands a column. A column for a field of the table at a position always stays with it. -/
theorem run_tablesPresent_iff (table : Option Table) (edits : List Edit) :
    ((∀ before, before <+: edits → ((start table).run before).TablesPresent) ↔
      ∀ before edit, before ++ [edit] <+: edits → ¬ ((start table).run before).Strands edit) ∧
    ∀ column ∈ ((start table).run edits).columns, ∀ f p, column.kind = .field f →
      f.position = some p → ((start table).run edits).uses f.table = true := by
  have hconsistent (edits : List Edit) := (consistent_start table).run edits
  refine ⟨?_, fun column hcolumn f p hkind hp =>
    (hconsistent edits).uses_of_position hcolumn hkind hp⟩
  induction edits using List.reverseRecOn with
  | nil =>
    simp only [List.prefix_nil, forall_eq, List.append_eq_nil_iff, List.cons_ne_nil, and_false,
      false_imp_iff, implies_true, iff_true]
    exact tablesPresent_start table
  | append_singleton edits edit ih =>
    have hshorter : edits <+: edits ++ [edit] := List.prefix_append _ _
    have hlast (h : ((start table).run edits).TablesPresent) :=
      tablesPresent_step_iff (hconsistent edits) h edit
    rw [← run_concat] at hlast
    constructor
    · intro hall before other hprefix
      rcases List.prefix_concat_iff.mp hprefix with heq | hprefix
      · obtain ⟨rfl, hother⟩ := List.append_inj' heq rfl
        obtain rfl := List.singleton_inj.mp hother
        exact (hlast (hall before hshorter)).mp (hall _ List.prefix_rfl)
      · exact ih.mp (fun _ h => hall _ (h.trans hshorter)) before other hprefix
    · intro hnone before hprefix
      have hall := ih.mpr fun _ _ h => hnone _ _ (h.trans hshorter)
      rcases List.prefix_concat_iff.mp hprefix with rfl | hprefix
      · exact (hlast (hall edits List.prefix_rfl)).mpr (hnone edits edit List.prefix_rfl)
      · exact hall before hprefix

/-- The changes of a query over a table: a column for one of its fields is added at no certain
position, and then the table is removed. -/
def partingEdits : List Edit :=
  [.addTable { name := "accounts" } none, .addField { name := "accounts" } "owner" none true,
    .removeTable 0]

/-- The removal of an only table is accepted while a column has a field of it. -/
theorem last_use_removed :
    ∃ column ∈ ((start none).run partingEdits).columns, ∃ f, column.kind = .field f ∧
      ((start none).run partingEdits).uses f.table = false :=
  ⟨_, List.mem_singleton.mpr rfl, _, rfl, by decide⟩

end Query

end SelectBinding
