import SelectBinding.Proofs.Outcome
import SelectBinding.Query.Edit
import SelectBinding.Query.Trace

/-!
What every run of changes leaves intact in a query.

The fields of columns belong to tables that are there, sorting criteria name columns and tables
that are there, the master is a table of the query, and no alias is empty. Every change keeps this,
so the text of a query never asks for a column that is missing.
-/

namespace SelectBinding

/-! ### The invariant -/

/-- A field with a position is a field of the table at that position. -/
def ColumnKind.Placed (sources : List Source) (kind : ColumnKind) : Prop :=
  ∀ f position, kind = .field f → f.position = some position →
    ∃ source, sources[position]? = some source ∧ f.table.same source.table = true

/-- A target names one of so many columns, or a field of one of so many tables. -/
def SortTarget.InRange (columns sources : Nat) (target : SortTarget) : Prop :=
  (∀ index, target = .column index → index < columns) ∧
    ∀ position name, target = .field position name → position < sources

namespace SortTarget.InRange

variable {columns sources : Nat}

protected lemma column {index : Nat} (h : index < columns) :
    (SortTarget.column index).InRange columns sources :=
  ⟨by rintro _ ⟨⟩; exact h, by rintro _ _ ⟨⟩⟩

protected lemma number {index : Nat} : (SortTarget.number index).InRange columns sources :=
  ⟨by rintro _ ⟨⟩, by rintro _ _ ⟨⟩⟩

protected lemma field {position : Nat} {name : String} (h : position < sources) :
    (SortTarget.field position name).InRange columns sources :=
  ⟨by rintro _ ⟨⟩, by rintro _ _ ⟨⟩; exact h⟩

end SortTarget.InRange

lemma ColumnKind.Placed.mono {kind : ColumnKind} {sources sources' : List Source}
    (h : kind.Placed sources)
    (hs : ∀ (p : Nat) (source : Source), sources[p]? = some source →
      ∃ source', sources'[p]? = some source' ∧ source'.table = source.table) :
    kind.Placed sources' := by
  intro f p hk hp
  obtain ⟨source, hget, hsame⟩ := h f p hk hp
  obtain ⟨source', hget', htable⟩ := hs p source hget
  exact ⟨source', hget', by rwa [htable]⟩

namespace Query

/-- What holds of a query at any time. -/
structure Consistent (q : Query) : Prop where
  placed : ∀ column ∈ q.columns, column.kind.Placed q.sources
  inRange : ∀ key ∈ q.ordering, key.target.InRange q.columns.length q.sources.length
  master : ∀ table, q.master? = some table → q.uses table = true
  sourceAliases : ∀ source ∈ q.sources, source.aliasName ≠ some ""
  columnAliases : ∀ column ∈ q.columns, column.aliasName ≠ some ""

/-- The query that a run of changes starts from: an empty one, or all of a table. -/
def start : Option Table → Query
  | none => .empty
  | some table => .ofTable table

/-! ### Texts that look columns up by their indices -/

/-- The text of a sorting criterion; `none` where its column is missing. -/
def renderSortKey? (q : Query) (reserved : Reserved) (key : SortKey) : Option String :=
  match key.target with
  | .column index => q.columns[index]?.map fun _ => q.renderSortKey reserved key
  | _ => some (q.renderSortKey reserved key)

/-- What `f` makes of the columns of a query, one index after the other; `none` where a column is
missing. -/
def columnTexts? (q : Query) (f : Column → String) : Option (List String) :=
  (List.range q.columns.length).mapM fun index => q.columns[index]?.map f

/-- The text of a query; `none` where a column is missing that is asked for. -/
def render? (q : Query) (reserved : Reserved) : Option String := do
  let columns ← q.columnTexts? (q.renderColumn reserved)
  let ordering ← q.ordering.mapM (q.renderSortKey? reserved)
  return statementOf columns (q.sources.map (renderSource reserved))
    (q.filter.map fun expr => expr.render reserved) ordering

/-- The query part by part; `none` where a column is missing that is asked for. -/
def trace? (q : Query) : Option String :=
  (q.columnTexts? q.traceColumn).map q.traceWith

lemma mapM_some_of_forall {α β : Type} {f : α → Option β} {g : α → β} {l : List α}
    (h : ∀ a ∈ l, f a = some (g a)) : l.mapM f = some (l.map g) := by
  induction l with
  | nil => rfl
  | cons a l ih =>
    have ha := h a (by simp)
    have hl := ih fun b hb => h b (by simp [hb])
    simp [List.mapM_cons, ha, hl]

lemma columnTexts?_eq (q : Query) (f : Column → String) :
    q.columnTexts? f = some (q.columns.map f) := by
  have h : ∀ index ∈ List.range q.columns.length,
      (q.columns[index]?.map f) = some ((q.columns.map f).getD index "") := by
    intro index hi
    have hlt : index < q.columns.length := List.mem_range.mp hi
    simp [List.getD_eq_getElem?_getD, hlt]
  rw [columnTexts?, mapM_some_of_forall h]
  congr 1
  apply List.ext_getElem <;> simp +contextual [List.getD_eq_getElem?_getD]

/-- **Rendering.** The texts of a consistent query ask for no column that is missing. -/
lemma Consistent.render?_eq {q : Query} (h : q.Consistent) (reserved : Reserved) :
    q.render? reserved = some (q.render reserved) := by
  have hkeys : ∀ key ∈ q.ordering,
      q.renderSortKey? reserved key = some (q.renderSortKey reserved key) := by
    rintro ⟨target, ascending⟩ hkey
    have hin := (h.inRange _ hkey).1
    cases target with
    | column index =>
      have hlt := hin index rfl
      simp [renderSortKey?, hlt]
    | number _ => rfl
    | field _ _ => rfl
  simp only [render?, columnTexts?_eq, mapM_some_of_forall hkeys, render]
  rfl

lemma trace?_eq (q : Query) : q.trace? = some q.trace := by
  simp [trace?, columnTexts?_eq, trace]

/-! ### One change -/

lemma uses_of_master? {q : Query} (h : ∀ table, q.declaredMaster = some table → q.uses table = true)
    (table : Table) (hm : q.master? = some table) : q.uses table = true := by
  unfold master? at hm
  split at hm
  · rename_i declared _ hd
    obtain rfl := Option.some.inj hm
    exact h _ hd
  · simp at hm
  · rename_i first rest _ hs
    split at hm
    · obtain rfl := Option.some.inj hm
      simp [uses, hs, Table.same_refl]
    · simp at hm

/-- Which tables are used depends on the tables alone. -/
lemma uses_congr {q q' : Query}
    (h : q'.sources.map Source.table = q.sources.map Source.table) (table : Table) :
    q'.uses table = q.uses table := by
  have hany (sources : List Source) : (sources.any fun s => s.table.same table) =
      (sources.map Source.table).any fun t => t.same table := by
    rw [List.any_map]
    rfl
  rw [uses, uses, hany, hany, h]

/-- Another alias leaves the table as it is. -/
lemma map_table_set {sources : List Source} {position : Nat} {source : Source}
    (h : sources[position]? = some source) (aliasName : Option String) :
    (sources.set position { source with aliasName }).map Source.table =
      sources.map Source.table := by
  obtain ⟨hlt, rfl⟩ := List.getElem?_eq_some_iff.mp h
  apply List.ext_getElem?
  intro i
  by_cases hi : position = i
  · subst hi
    simp [hlt]
  · simp [hi]

lemma master?_of_declared {q : Query} {table : Table} (h : q.declaredMaster = some table) :
    q.master? = some table := by
  simp [master?, h]

lemma givenAlias_ne_empty (name : String) : givenAlias name ≠ some "" := by
  unfold givenAlias
  split
  · simp
  · rintro h
    obtain rfl := Option.some.inj h
    simp_all

lemma eraseIdx_positionWithout {α : Type} (l : List α) {removed p : Nat} (hne : p ≠ removed) :
    (l.eraseIdx removed)[positionWithout removed p]? = l[p]? := by
  rw [List.getElem?_eraseIdx, positionWithout]
  by_cases hp : p > removed
  · rw [if_pos hp, if_neg (by omega)]
    congr 1
    omega
  · rw [if_neg hp, if_pos (by omega)]

/-- A removal is accepted when nothing refers to the table; it takes the table away and renumbers
the others. -/
lemma removeTable_ok_iff {q q' : Query} {position : Nat} {removed : Source} :
    q.removeTable position = .ok (q', removed) ↔
      q.sources[position]? = some removed ∧ q.refersTo position = false ∧
        q' = { q.mapPositions (positionWithout position) with
          sources := q.sources.eraseIdx position
          declaredMaster := q.declaredMaster.filter fun master =>
            ((q.sources.eraseIdx position).any fun s => s.table.same removed.table) ||
              !master.same removed.table } := by
  unfold Query.removeTable
  cases hget : q.sources[position]? with
  | none => simp
  | some source =>
    cases hfree : q.refersTo position with
    | true => simp
    | false =>
      simp only [Bool.false_eq_true, if_false, Except.ok.injEq, Prod.mk.injEq, Option.some.injEq,
        true_and]
      constructor
      · rintro ⟨rfl, rfl⟩
        exact ⟨rfl, rfl⟩
      · rintro ⟨rfl, rfl⟩
        exact ⟨rfl, rfl⟩

lemma uses_iff {q : Query} {table : Table} :
    q.uses table = true ↔ ∃ source ∈ q.sources, source.table.same table = true := by
  simp [uses]

/-- A column for a field is added for a table that the query uses, at the position where one is
given. -/
lemma addField_ok {q q' : Query} {table : Table} {field : String} {position : Option Nat}
    {visible : Bool} (hq : q.addField table field position visible = .ok q') :
    q.addColumn (.field ⟨table, field, position⟩) visible = q' ∧ q.uses table = true ∧
      ∀ p, position = some p →
        ∃ source, q.sources[p]? = some source ∧ source.table.same table = true := by
  unfold Query.addField at hq
  split at hq
  · rename_i p
    split at hq
    · simp at hq
    · rename_i source hsource
      obtain ⟨hsame, hadded⟩ := Except.guard_eq_ok_iff.mp hq
      refine ⟨hadded, uses_iff.mpr ⟨source, List.mem_of_getElem? hsource, hsame⟩, ?_⟩
      rintro _ ⟨⟩
      exact ⟨source, hsource, hsame⟩
  · obtain ⟨huses, hadded⟩ := Except.guard_eq_ok_iff.mp hq
    exact ⟨hadded, huses, by simp⟩

lemma changeColumn_ok_iff {q q' : Query} {index : Nat} {change : Column → Column} :
    q.changeColumn index change = .ok q' ↔
      ∃ column, q.columns[index]? = some column ∧
        { q with columns := q.columns.set index (change column) } = q' := by
  unfold changeColumn
  split
  · rename_i hcolumn
    simp [hcolumn]
  · rename_i column hcolumn
    simp [hcolumn]

lemma setTableAlias_ok_iff {q q' : Query} {position : Nat} {name : String} :
    q.setTableAlias position name = .ok q' ↔
      ∃ source, q.sources[position]? = some source ∧
        { q with sources := q.sources.set position { source with aliasName := givenAlias name } } =
          q' := by
  unfold setTableAlias
  split
  · rename_i hsource
    simp [hsource]
  · rename_i source hsource
    simp [hsource]

lemma consistent_empty : Consistent empty where
  placed := by simp [empty]
  inRange := by simp [empty]
  master := by simp [empty, master?]
  sourceAliases := by simp [empty]
  columnAliases := by simp [empty]

namespace Consistent

variable {q : Query}

lemma declared (h : q.Consistent) (table : Table) (hd : q.declaredMaster = some table) :
    q.uses table = true :=
  h.master _ (master?_of_declared hd)

lemma addTable (h : q.Consistent) (table : Table) (aliasName : Option String) :
    (q.addTable table aliasName).Consistent where
  placed column hc := (h.placed column hc).mono fun p source hp =>
    ⟨source, by
      obtain ⟨hlt, -⟩ := List.getElem?_eq_some_iff.mp hp
      simpa [Query.addTable, List.getElem?_append_left hlt] using hp, rfl⟩
  inRange key hk := by
    refine ⟨(h.inRange key hk).1, fun p name ht => ?_⟩
    have := (h.inRange key hk).2 p name ht
    simp only [Query.addTable, List.length_append]
    omega
  master := uses_of_master? fun declared hd => by
    have := h.declared declared hd
    simp only [uses, Query.addTable, List.any_append] at this ⊢
    simp [this]
  sourceAliases source hs := by
    rcases List.mem_append.mp hs with hs | hs
    · exact h.sourceAliases source hs
    · obtain rfl := List.mem_singleton.mp hs
      cases aliasName with
      | none => simp
      | some name => exact givenAlias_ne_empty name
  columnAliases := h.columnAliases

/-- A column that knows a table which is there may be added. -/
lemma addColumn (h : q.Consistent) {kind : ColumnKind} (hk : kind.Placed q.sources)
    (visible : Bool) : (q.addColumn kind visible).Consistent where
  placed column hc := by
    rcases List.mem_append.mp hc with hc | hc
    · exact h.placed column hc
    · obtain rfl := List.mem_singleton.mp hc
      exact hk
  inRange key hkey := by
    refine ⟨fun index ht => ?_, (h.inRange key hkey).2⟩
    have := (h.inRange key hkey).1 index ht
    simp only [Query.addColumn, List.length_append]
    omega
  master := uses_of_master? h.declared
  sourceAliases := h.sourceAliases
  columnAliases column hc := by
    rcases List.mem_append.mp hc with hc | hc
    · exact h.columnAliases column hc
    · obtain rfl := List.mem_singleton.mp hc
      simp

lemma addField (h : q.Consistent) {table : Table} {field : String} {position : Option Nat}
    {visible : Bool} {q' : Query} (hq : q.addField table field position visible = .ok q') :
    q'.Consistent := by
  obtain ⟨rfl, -, hplaced⟩ := addField_ok hq
  refine h.addColumn (fun f p hf hp => ?_) visible
  obtain rfl := ColumnKind.field.inj hf
  obtain ⟨source, hsource, hsame⟩ := hplaced p hp
  exact ⟨source, hsource, Table.same_symm hsame⟩

/-- A column may be changed as long as it stands for the same and its alias is not empty. -/
lemma changeColumn (h : q.Consistent) {index : Nat} {change : Column → Column} {q' : Query}
    (hkind : ∀ column, (change column).kind = column.kind)
    (halias : ∀ column, column.aliasName ≠ some "" → (change column).aliasName ≠ some "")
    (hq : q.changeColumn index change = .ok q') : q'.Consistent := by
  obtain ⟨column, hcolumn, rfl⟩ := changeColumn_ok_iff.mp hq
  have hmem : column ∈ q.columns := List.mem_of_getElem? hcolumn
  refine ⟨fun c hc => ?_, fun key hk => ?_, uses_of_master? h.declared, h.sourceAliases,
    fun c hc => ?_⟩
  · rcases List.mem_or_eq_of_mem_set hc with hc | rfl
    · exact h.placed c hc
    · rw [hkind]
      exact h.placed column hmem
  · simpa using h.inRange key hk
  · rcases List.mem_or_eq_of_mem_set hc with hc | rfl
    · exact h.columnAliases c hc
    · exact halias column (h.columnAliases column hmem)

lemma addSortKey (h : q.Consistent) {target : SortTarget}
    (ht : target.InRange q.columns.length q.sources.length) (ascending : Bool) :
    (q.addSortKey target ascending).Consistent where
  placed := h.placed
  inRange key hk := by
    rcases List.mem_append.mp hk with hk | hk
    · exact h.inRange key hk
    · obtain rfl := List.mem_singleton.mp hk
      exact ht
  master := uses_of_master? h.declared
  sourceAliases := h.sourceAliases
  columnAliases := h.columnAliases

/-- A table of the query may be declared to be its master. -/
lemma setMaster (h : q.Consistent) {table : Table} (hused : q.uses table = true) :
    Consistent { q with declaredMaster := some table } := by
  refine ⟨h.placed, h.inRange, uses_of_master? fun declared hd => ?_, h.sourceAliases,
    h.columnAliases⟩
  obtain rfl := Option.some.inj hd
  exact hused

lemma setTableAlias (h : q.Consistent) {position : Nat} {name : String} {q' : Query}
    (hq : q.setTableAlias position name = .ok q') : q'.Consistent := by
  obtain ⟨source, hsource, rfl⟩ := setTableAlias_ok_iff.mp hq
  have htables := map_table_set hsource (givenAlias name)
  refine ⟨fun c hc => (h.placed c hc).mono fun p s hp => ?_, fun key hk => ?_,
    uses_of_master? fun table hd => ?_, fun s hs => ?_, h.columnAliases⟩
  · have := congrArg (·[p]?) htables
    simp only [List.getElem?_map, hp, Option.map_some, Option.map_eq_some_iff] at this
    exact this
  · simpa using h.inRange key hk
  · rw [uses_congr htables]
    exact h.declared table hd
  · rcases List.mem_or_eq_of_mem_set hs with hs | rfl
    · exact h.sourceAliases s hs
    · exact givenAlias_ne_empty name

/-! ### Removing a table -/

lemma placed_without {kind : ColumnKind} {sources : List Source} {removed : Nat}
    (h : kind.Placed sources) (hfree : kind.refersTo removed = false) :
    (kind.mapPositions (positionWithout removed)).Placed (sources.eraseIdx removed) := by
  intro f p hk hp
  cases kind with
  | asterisk scope => simp [ColumnKind.mapPositions] at hk
  | expression e => simp [ColumnKind.mapPositions] at hk
  | field column =>
    obtain rfl := ColumnKind.field.inj hk
    obtain ⟨old, hold, rfl⟩ := Option.map_eq_some_iff.mp hp
    have hne : old ≠ removed := by
      rintro rfl
      simp [ColumnKind.refersTo, hold] at hfree
    obtain ⟨source, hs, hsame⟩ := h column old rfl hold
    exact ⟨source, by rw [eraseIdx_positionWithout _ hne]; exact hs, hsame⟩

lemma inRange_without {target : SortTarget} {columns removed : Nat} {sources : List Source}
    (h : target.InRange columns sources.length) (hfree : target.refersTo removed = false) :
    (target.mapPositions (positionWithout removed)).InRange columns
      (sources.eraseIdx removed).length := by
  cases target with
  | column index => exact .column (h.1 index rfl)
  | number index => exact .number
  | field p name =>
    refine .field ?_
    have hne : p ≠ removed := by
      rintro rfl
      simp [SortTarget.refersTo] at hfree
    have hlt := h.2 p name rfl
    apply (List.getElem?_eq_some_iff.mp _).1
    · exact sources[p]
    · rw [eraseIdx_positionWithout _ hne, List.getElem?_eq_getElem hlt]

/-- A master that stays after a table is gone is still a table of the query. -/
lemma uses_without {sources : List Source} {removed : Nat} {source : Source} {master : Table}
    (hget : sources[removed]? = some source)
    (hused : (sources.any fun s => s.table.same master) = true)
    (hkept : ((sources.eraseIdx removed).any (fun s => s.table.same source.table) ||
      !master.same source.table) = true) :
    ((sources.eraseIdx removed).any fun s => s.table.same master) = true := by
  obtain ⟨s, hs, hsame⟩ := List.any_eq_true.mp hused
  obtain ⟨i, hi⟩ := List.mem_iff_getElem?.mp hs
  by_cases hne : i = removed
  · -- the master was the table that goes, so another use of it is left
    subst hne
    obtain rfl := Option.some.inj (hi.symm.trans hget)
    rw [Table.same_symm hsame, Bool.not_true, Bool.or_false] at hkept
    obtain ⟨s', hs', hsame'⟩ := List.any_eq_true.mp hkept
    exact List.any_eq_true.mpr ⟨s', hs', Table.same_trans hsame' hsame⟩
  · have hleft := eraseIdx_positionWithout sources hne
    rw [hi] at hleft
    exact List.any_eq_true.mpr ⟨s, List.mem_of_getElem? hleft, hsame⟩

lemma removeTable (h : q.Consistent) {position : Nat} {q' : Query} {source : Source}
    (hq : q.removeTable position = .ok (q', source)) : q'.Consistent := by
  obtain ⟨hremoved, hfree, rfl⟩ := removeTable_ok_iff.mp hq
  simp only [refersTo, Bool.or_eq_false_iff] at hfree
  obtain ⟨⟨hcolumns, -⟩, hordering⟩ := hfree
  refine ⟨?_, ?_, uses_of_master? fun table hd => ?_, ?_, ?_⟩
  · intro column hc
    obtain ⟨old, hold, rfl⟩ := List.mem_map.mp hc
    exact placed_without (h.placed old hold)
      (by simpa using List.any_eq_false.mp hcolumns old hold)
  · intro key hk
    obtain ⟨old, hold, rfl⟩ := List.mem_map.mp hk
    have := inRange_without (h.inRange old hold)
      (by simpa using List.any_eq_false.mp hordering old hold)
    simpa [mapPositions] using this
  · obtain ⟨hdeclared, hkept⟩ := Option.filter_eq_some_iff.mp hd
    exact uses_without hremoved (h.declared table hdeclared) hkept
  · intro s hs
    exact h.sourceAliases s (List.mem_of_mem_eraseIdx hs)
  · intro column hc
    obtain ⟨old, hold, rfl⟩ := List.mem_map.mp hc
    exact h.columnAliases old hold

end Consistent

/-! ### Runs of changes -/

/-- **One change.** A change that is not refused keeps a query consistent. -/
lemma Consistent.apply {q q' : Query} (h : q.Consistent) {edit : Edit}
    (hq : q.apply edit = .ok q') : q'.Consistent := by
  cases edit with
  | clear =>
    obtain rfl := Except.ok.inj hq
    exact consistent_empty
  | addTable table aliasName =>
    obtain rfl := Except.ok.inj hq
    exact h.addTable table aliasName
  | removeTable position =>
    obtain ⟨⟨left, source⟩, hremoved, rfl⟩ := Except.map_eq_ok_iff.mp hq
    exact h.removeTable hremoved
  | setTableAlias position aliasName => exact h.setTableAlias hq
  | setMaster table =>
    obtain ⟨hused, rfl⟩ := Except.guard_eq_ok_iff.mp hq
    exact h.setMaster hused
  | addField table field position visible => exact h.addField hq
  | addAsterisk scope visible =>
    obtain rfl := Except.ok.inj hq
    exact h.addColumn (by simp [ColumnKind.Placed]) visible
  | addExpression expr visible =>
    obtain rfl := Except.ok.inj hq
    exact h.addColumn (by simp [ColumnKind.Placed]) visible
  | setColumnAlias index aliasName =>
    have hq : q.changeColumn index (fun c => { c with aliasName := givenAlias aliasName }) =
      .ok q' := hq
    refine h.changeColumn ?_ ?_ hq
    · exact fun _ => rfl
    · exact fun _ _ => givenAlias_ne_empty aliasName
  | setColumnVisible index visible =>
    have hq : q.changeColumn index (fun c => { c with visible }) = .ok q' := hq
    refine h.changeColumn ?_ ?_ hq
    · exact fun _ => rfl
    · exact fun _ ha => ha
  | setFilter filter =>
    obtain rfl := Except.ok.inj hq
    exact ⟨h.placed, h.inRange, uses_of_master? h.declared, h.sourceAliases, h.columnAliases⟩
  | sortByColumn index ascending =>
    obtain ⟨hlt, rfl⟩ := Except.guard_eq_ok_iff.mp hq
    exact h.addSortKey (.column hlt) ascending
  | sortByPosition index ascending =>
    obtain ⟨-, rfl⟩ := Except.guard_eq_ok_iff.mp hq
    exact h.addSortKey .number ascending
  | sortByField position field ascending =>
    obtain ⟨hlt, rfl⟩ := Except.guard_eq_ok_iff.mp hq
    exact h.addSortKey (.field hlt) ascending
  | setStatement statement =>
    obtain rfl := Except.ok.inj hq
    exact ⟨h.placed, h.inRange, uses_of_master? h.declared, h.sourceAliases, h.columnAliases⟩

lemma Consistent.step {q : Query} (h : q.Consistent) (edit : Edit) : (q.step edit).Consistent := by
  unfold Query.step
  split
  · rename_i q' hq
    exact h.apply hq
  · exact h

lemma Consistent.run {q : Query} (h : q.Consistent) (edits : List Edit) :
    (q.run edits).Consistent := by
  induction edits generalizing q with
  | nil => exact h
  | cons edit edits ih => exact ih (h.step edit)

lemma consistent_start (table : Option Table) : (start table).Consistent := by
  cases table with
  | none => exact consistent_empty
  | some table =>
    have hused : (empty.addTable table none).uses table = true := by
      simp [uses, Query.addTable, empty, Table.same_refl]
    exact ((consistent_empty.addTable table none).setMaster hused).addColumn
      (by simp [ColumnKind.Placed]) true

/-- **Runs.** Whatever changes a query has gone through, refused ones among them, it is consistent,
its texts find every column they ask for, and a further change that is refused leaves it as it
was. -/
theorem run_consistent (table : Option Table) (edits : List Edit) :
    ((start table).run edits).Consistent ∧
      (∀ reserved, ((start table).run edits).render? reserved =
        some (((start table).run edits).render reserved)) ∧
      ((start table).run edits).trace? = some ((start table).run edits).trace ∧
      ∀ edit e, ((start table).run edits).apply edit = .error e →
        (start table).run (edits ++ [edit]) = (start table).run edits := by
  have h := (consistent_start table).run edits
  refine ⟨h, h.render?_eq, trace?_eq _, fun edit e he => ?_⟩
  simp only [run, List.foldl_append, List.foldl_cons, List.foldl_nil] at he ⊢
  rw [step, he]

end Query

end SelectBinding
