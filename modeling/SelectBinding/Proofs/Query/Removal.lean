import SelectBinding.Proofs.Outcome
import SelectBinding.Proofs.Query.Generated
import SelectBinding.Proofs.Query.Renumbering

/-!
What the removal of a table leaves of a query.

The positions after the removed one are lowered by one, wherever they stand, so every reference
finds the entry it had. The expansion of the columns follows: the fields that an asterisk had of the
removed table are gone, and the other entries stay in their order.
-/

namespace SelectBinding

/-! ### Expanded columns -/

/-- Where the column comes from after `move` has renumbered the tables. -/
def ExpandedSource.mapPositions (move : Nat → Nat) : ExpandedSource → ExpandedSource
  | .field column => .field { column with position := column.position.map move }
  | .expression index => .expression index

namespace ExpandedColumn

/-- The expanded column after `move` has renumbered the tables. -/
def mapPositions (move : Nat → Nat) (c : ExpandedColumn) : ExpandedColumn :=
  { c with source := c.source.mapPositions move }

/-- Whether the column is one that an asterisk has of the table at `position`. -/
def fromTable (position : Nat) (c : ExpandedColumn) : Bool :=
  c.fromAsterisk && c.position? == some position

end ExpandedColumn

/-- The column after `move` has renumbered the tables. -/
def Column.mapPositions (move : Nat → Nat) (column : Column) : Column :=
  { column with kind := column.kind.mapPositions move }

namespace Query

/-! ### The expansion without a table -/

variable {q q' : Query} {removed : Nat}

lemma columnAlias?_mapPositions {move : Nat → Nat}
    (hc : q'.columns = q.columns.map (Column.mapPositions move)) (index : Nat) :
    q'.columnAlias? index = q.columnAlias? index :=
  (SameName.of_renumbered hc index).columnAlias?

/-- The other tables keep their fields, under the positions they have now. -/
lemma fieldsAt_without (hs : q'.sources = q.sources.eraseIdx removed) (index : Nat)
    (visible : Bool) {p : Nat} (hne : p ≠ removed) :
    q'.fieldsAt index visible (positionWithout removed p) =
      (q.fieldsAt index visible p).map
        (ExpandedColumn.mapPositions (positionWithout removed)) := by
  unfold fieldsAt
  rw [hs, eraseIdx_positionWithout _ hne]
  cases q.sources[p]? with
  | none => rfl
  | some source => simp [ExpandedColumn.mapPositions, ExpandedSource.mapPositions]

lemma fromTable_of_mem_fieldsAt {index : Nat} {visible : Bool} {p : Nat} {c : ExpandedColumn}
    (h : c ∈ q.fieldsAt index visible p) (position : Nat) :
    c.fromTable position = (p == position) := by
  unfold fieldsAt at h
  split at h
  · simp at h
  · obtain ⟨field, -, rfl⟩ := List.mem_map.mp h
    simp [ExpandedColumn.fromTable, ExpandedColumn.position?, ExpandedColumn.field?]

/-- What is listed table by table is listed without one that contributes nothing, when the others
contribute the same at the positions they have now. -/
lemma flatMap_without {α : Type} {f g : Nat → List α} (hempty : f removed = [])
    (hothers : ∀ p, p ≠ removed → g (positionWithout removed p) = f p) (n : Nat) :
    (List.range (if removed < n then n - 1 else n)).flatMap g = (List.range n).flatMap f := by
  induction n with
  | zero => rfl
  | succ n ih =>
    rw [List.range_succ, List.flatMap_append, ← ih, List.flatMap_singleton]
    -- the last position stands before the removed one, is it, or is lowered by one
    rcases Nat.lt_trichotomy n removed with hlt | rfl | hlt
    · have hn : positionWithout removed n = n := if_neg (by omega)
      have hfn := hothers n (by omega)
      rw [if_neg (by omega), if_neg (by omega), List.range_succ, List.flatMap_append,
        List.flatMap_singleton, ← hfn, hn]
    · rw [if_pos (by omega), if_neg (by omega), hempty, List.append_nil, Nat.add_sub_cancel]
    · obtain ⟨m, rfl⟩ : ∃ m, n = m + 1 := ⟨n - 1, by omega⟩
      have hm : positionWithout removed (m + 1) = m := if_pos hlt
      have hfm := hothers (m + 1) (by omega)
      rw [if_pos (by omega), if_pos hlt, Nat.add_sub_cancel, Nat.add_sub_cancel, List.range_succ,
        List.flatMap_append, List.flatMap_singleton, ← hfm, hm]

lemma filter_fieldsAt (index : Nat) (visible : Bool) (p : Nat) :
    ((q.fieldsAt index visible p).filter fun c => !c.fromTable removed) =
      if p != removed then q.fieldsAt index visible p else [] := by
  split
  · rename_i hne
    refine List.filter_eq_self.mpr fun c hc => ?_
    rw [fromTable_of_mem_fieldsAt hc]
    simpa using hne
  · rename_i heq
    refine List.filter_eq_nil_iff.mpr fun c hc => ?_
    rw [fromTable_of_mem_fieldsAt hc]
    simpa using heq

/-- The asterisk for all tables loses the fields of the removed one. -/
lemma flatMap_fieldsAt_without (hs : q'.sources = q.sources.eraseIdx removed) (index : Nat)
    (visible : Bool) :
    (List.range q'.sources.length).flatMap (q'.fieldsAt index visible) =
      (((List.range q.sources.length).flatMap (q.fieldsAt index visible)).filter
        fun c => !c.fromTable removed).map
        (ExpandedColumn.mapPositions (positionWithout removed)) := by
  rw [hs, List.length_eraseIdx, List.filter_flatMap, List.map_flatMap]
  refine flatMap_without ?_ (fun p hne => ?_) q.sources.length
  · simp [filter_fieldsAt]
  · simp [filter_fieldsAt, hne, fieldsAt_without hs index visible hne]

/-- A column that does not refer to the removed table expands to what it did, but for the fields
that an asterisk has of that table. -/
lemma expandColumn_without (hs : q'.sources = q.sources.eraseIdx removed)
    (hc : q'.columns = q.columns.map (Column.mapPositions (positionWithout removed)))
    (index : Nat) {column : Column} (hfree : column.kind.refersTo removed = false) :
    q'.expandColumn index (column.mapPositions (positionWithout removed)) =
      ((q.expandColumn index column).filter fun c => !c.fromTable removed).map
        (ExpandedColumn.mapPositions (positionWithout removed)) := by
  obtain ⟨kind, aliasName, visible⟩ := column
  cases kind with
  | field field => rfl
  | asterisk scope =>
    cases scope with
    | none => exact flatMap_fieldsAt_without hs index visible
    | some p =>
      have hne : p ≠ removed := by simpa [ColumnKind.refersTo] using hfree
      have hkept : (q.fieldsAt index visible p).filter (fun c => !c.fromTable removed) =
          q.fieldsAt index visible p := by
        simp [filter_fieldsAt, hne]
      have hfields := fieldsAt_without hs index visible hne
      simpa [expandColumn, Column.mapPositions, ColumnKind.mapPositions, hkept] using hfields
  | expression e =>
    simp [expandColumn, Column.mapPositions, ColumnKind.mapPositions, columnAlias?_mapPositions hc,
      ExpandedColumn.fromTable, ExpandedColumn.mapPositions, ExpandedSource.mapPositions]

lemma expandFrom_without (hs : q'.sources = q.sources.eraseIdx removed)
    (hc : q'.columns = q.columns.map (Column.mapPositions (positionWithout removed)))
    {columns : List Column} (hfree : ∀ column ∈ columns, column.kind.refersTo removed = false)
    (first : Nat) :
    q'.expandFrom first (columns.map (Column.mapPositions (positionWithout removed))) =
      ((q.expandFrom first columns).filter fun c => !c.fromTable removed).map
        (ExpandedColumn.mapPositions (positionWithout removed)) := by
  induction columns generalizing first with
  | nil => rfl
  | cons column rest ih =>
    have hcolumn := expandColumn_without hs hc first (hfree column List.mem_cons_self)
    have hrest := ih (fun c hmem => hfree c (List.mem_cons_of_mem _ hmem)) (first + 1)
    simp only [List.map_cons, expandFrom, hcolumn, hrest, List.filter_append, List.map_append]

/-! ### Queries that changes lead to -/

/-- Some run of changes, from an empty query or from all of a table, leads to the query. -/
def Reachable (q : Query) : Prop :=
  ∃ table edits, q = (start table).run edits

lemma Reachable.consistent (h : q.Reachable) : q.Consistent := by
  obtain ⟨table, edits, rfl⟩ := h
  exact (consistent_start table).run edits

/-- What becomes of a position when the table at `removed` goes: it is another one, the later ones
are lowered by one, and there is the same entry as before, or again none. -/
structure Moves (removed : Nat) (sources sources' : List Source) (p p' : Nat) : Prop where
  other : p ≠ removed
  lowered : p' = if p > removed then p - 1 else p
  entry : sources'[p']? = sources[p]?

/-- The query `q'` is `q` without the table at `removed`. -/
structure Without (q : Query) (removed : Nat) (q' : Query) : Prop where
  sources : q'.sources = q.sources.eraseIdx removed
  renumbered : q.Renumbered (Moves removed q.sources q'.sources) q'
  master : q'.declaredMaster = q.declaredMaster.filter q'.uses
  expanded : q'.expanded = (q.expanded.filter fun c => !c.fromTable removed).map
    (ExpandedColumn.mapPositions (positionWithout removed))

/-- A declared master that is a table of the query stays exactly when it still is one. -/
lemma filter_master {sources : List Source} {removed : Nat} {source : Source} {master : Table}
    (hget : sources[removed]? = some source)
    (hused : (sources.any fun s => s.table.same master) = true) :
    ((sources.eraseIdx removed).any (fun s => s.table.same source.table) ||
        !master.same source.table) =
      (sources.eraseIdx removed).any fun s => s.table.same master := by
  rw [Bool.eq_iff_iff]
  refine ⟨Consistent.uses_without hget hused, fun hstays => ?_⟩
  by_cases hsame : master.same source.table = true
  · obtain ⟨s, hs, hmaster⟩ := List.any_eq_true.mp hstays
    have hstill : ((sources.eraseIdx removed).any fun s => s.table.same source.table) = true :=
      List.any_eq_true.mpr ⟨s, hs, Table.same_trans hmaster hsame⟩
    rw [hstill, Bool.true_or]
  · simp [hsame]

lemma Consistent.without (h : q.Consistent) {source : Source}
    (hq : q.removeTable removed = .ok (q', source)) : q.Without removed q' := by
  obtain ⟨hget, hfree, rfl⟩ := removeTable_ok_iff.mp hq
  -- what the query refers to is not the removed table, since nothing refers to that
  have hmoves (p : Nat) (hp : q.refersTo p = true) :
      Moves removed q.sources (q.sources.eraseIdx removed) p (positionWithout removed p) := by
    have hne : p ≠ removed := by
      rintro rfl
      simp [hfree] at hp
    exact ⟨hne, rfl, eraseIdx_positionWithout _ hne⟩
  have hrenumbered := renumbered_mapPositions hmoves
  refine ⟨rfl, ⟨hrenumbered.columns, hrenumbered.filter, hrenumbered.ordering, rfl⟩, ?_, ?_⟩
  · cases hmaster : q.declaredMaster with
    | none => rfl
    | some master =>
      have hstays := filter_master hget (h.declared master hmaster)
      rw [Option.filter_some, hstays]
      rfl
  · simp only [refersTo, Bool.or_eq_false_iff] at hfree
    refine expandFrom_without rfl rfl (fun column hcolumn => ?_) 0
    simpa using List.any_eq_false.mp hfree.1.1 column hcolumn

/-- **Removal.** The removal of a table that is refused leaves the query as it was, and it is
refused when the table is missing or something refers to it. Otherwise the table goes, every
reference finds the entry it had, the declared master stays while its table does, and the expansion
loses the fields that asterisks had of the table. -/
theorem removeTable_without (h : q.Reachable) (position : Nat) :
    (∀ e, q.removeTable position = .error e →
      q.step (.removeTable position) = q ∧
        (q.sources.length ≤ position ∨ q.refersTo position = true)) ∧
    ∀ q' source, q.removeTable position = .ok (q', source) →
      q.step (.removeTable position) = q' ∧ q.sources[position]? = some source ∧
        q.Without position q' := by
  refine ⟨fun e he => ⟨by simp [step, apply, he, Except.map], ?_⟩, fun q' source hq =>
    ⟨by simp [step, apply, hq, Except.map], (removeTable_ok_iff.mp hq).1,
      h.consistent.without hq⟩⟩
  by_contra hneither
  obtain ⟨hlt, hfree⟩ := not_or.mp hneither
  have hget := List.getElem?_eq_getElem (Nat.not_le.mp hlt)
  have hok := removeTable_ok_iff.mpr ⟨hget, Bool.eq_false_iff.mpr hfree, rfl⟩
  simp [he] at hok

/-- The changes that make `SELECT * FROM accounts, entries WHERE entries.amount = 1 ORDER BY
entries.amount, 3`, which refers to its second table by name and to its first by an asterisk and a
number alone. -/
def spareEdits : List Edit :=
  [.addTable { name := "accounts", fields := [{ name := "id" }, { name := "owner" }] } none,
    .addTable { name := "entries", fields := [{ name := "amount" }] } none,
    .addAsterisk none true,
    .setFilter (some (.binary .relational .eq
      (.var ⟨["entries", "amount"], none, some (.field 1 "amount")⟩) (.const (.integer 1)))),
    .sortByField 1 "amount" true, .sortByPosition 2 true]

theorem removeTable_without_spare :
    (∃ q' source, ((start none).run spareEdits).removeTable 0 = .ok (q', source) ∧
      ((start none).run spareEdits).Without 0 q') ∧
    ((start none).run spareEdits).step (.removeTable 1) = (start none).run spareEdits := by
  have hreachable : ((start none).run spareEdits).Reachable := ⟨none, spareEdits, rfl⟩
  obtain ⟨⟨q', source⟩, hok⟩ := Except.exists_of_isOk
    (x := ((start none).run spareEdits).removeTable 0) (by decide +kernel)
  obtain ⟨e, he⟩ := Except.exists_of_not_isOk
    (x := ((start none).run spareEdits).removeTable 1) (by decide +kernel)
  exact ⟨⟨q', source, hok, ((removeTable_without hreachable 0).2 q' source hok).2.2⟩,
    ((removeTable_without hreachable 1).1 e he).1⟩

end Query

end SelectBinding
