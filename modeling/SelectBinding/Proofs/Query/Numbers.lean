import Mathlib.Data.List.Nodup
import SelectBinding.Proofs.Query.Lookup
import SelectBinding.Proofs.Query.Removal

/-!
Sorting by the number of a column, when a table is removed.

The number counts in the expansion, where a removal takes out the entries that asterisks have of the
table, and it is not counted anew. So it stands for the same entry only while none before it goes.
-/

namespace SelectBinding

namespace Query

variable {q q' : Query}

/-! ### The expansion has no entry twice -/

/-- No table of the query has two fields of one name. -/
def DistinctFields (q : Query) : Prop :=
  ∀ source ∈ q.sources, (source.table.fields.map Field.name).Nodup

lemma nodup_fieldsAt (h : q.DistinctFields) (index : Nat) (visible : Bool) (position : Nat) :
    (q.fieldsAt index visible position).Nodup := by
  unfold fieldsAt
  split
  · exact List.nodup_nil
  · rename_i source hsource
    have hnames := h source (List.mem_of_getElem? hsource)
    refine List.Nodup.of_map ExpandedColumn.name ?_
    rw [List.map_map]
    exact hnames

lemma position?_of_mem_fieldsAt {index : Nat} {visible : Bool} {position : Nat}
    {c : ExpandedColumn} (h : c ∈ q.fieldsAt index visible position) :
    c.position? = some position := by
  have hfrom := fromTable_of_mem_fieldsAt h position
  simp only [beq_self_eq_true, ExpandedColumn.fromTable, Bool.and_eq_true, beq_iff_eq] at hfrom
  exact hfrom.2

lemma nodup_expandColumn (h : q.DistinctFields) (index : Nat) (column : Column) :
    (q.expandColumn index column).Nodup := by
  unfold expandColumn
  split
  · exact List.nodup_singleton _
  · exact nodup_fieldsAt h index column.visible _
  · refine List.nodup_flatMap.mpr
      ⟨fun position _ => nodup_fieldsAt h index column.visible position,
        List.nodup_range.imp fun hne c hc hc' => hne ?_⟩
    exact Option.some.inj
      ((position?_of_mem_fieldsAt hc).symm.trans (position?_of_mem_fieldsAt hc'))
  · exact List.nodup_singleton _

lemma le_column_of_mem_expandFrom {first : Nat} {columns : List Column} {c : ExpandedColumn}
    (h : c ∈ q.expandFrom first columns) : first ≤ c.column := by
  induction columns generalizing first with
  | nil => simp [expandFrom] at h
  | cons column rest ih =>
    rcases List.mem_append.mp h with h | h
    · exact Nat.le_of_eq (column_of_mem_expandColumn h).symm
    · have := ih h
      omega

lemma nodup_expanded (h : q.DistinctFields) : q.expanded.Nodup := by
  suffices hall : ∀ first columns, (q.expandFrom first columns).Nodup from hall 0 q.columns
  intro first columns
  induction columns generalizing first with
  | nil => exact List.nodup_nil
  | cons column rest ih =>
    refine (nodup_expandColumn h first column).append (ih (first + 1)) fun c hc hrest => ?_
    have := column_of_mem_expandColumn hc
    have := le_column_of_mem_expandFrom hrest
    omega

/-! ### The number after a removal -/

/-- An entry that is kept stands after those kept before it. -/
lemma getElem?_filter_countP {α : Type} {l : List α} {p : α → Bool} {k : Nat} {a : α}
    (h : l[k]? = some a) (ha : p a = true) : (l.filter p)[(l.take k).countP p]? = some a := by
  induction l generalizing k with
  | nil => simp at h
  | cons b l ih =>
    cases k with
    | zero =>
      obtain rfl : b = a := by simpa using h
      rw [List.filter_cons_of_pos ha]
      rfl
    | succ k =>
      have hl := ih (k := k) (by simpa using h)
      by_cases hb : p b = true <;> simp [hb, hl]

/-- The number of entries before the one at an index that go with the table at `removed`. -/
def goneBefore (q : Query) (removed index : Nat) : Nat :=
  (q.expanded.take index).countP (ExpandedColumn.fromTable removed)

/-- An entry that is kept moves up by the entries before it that go. -/
lemma Without.getElem?_expanded {removed k : Nat} {c : ExpandedColumn} (h : q.Without removed q')
    (hc : q.expanded[k]? = some c) (hkept : c.fromTable removed = false) :
    q'.expanded[k - q.goneBefore removed k]? =
      some (c.mapPositions (positionWithout removed)) := by
  have hlt := (List.getElem?_eq_some_iff.mp hc).1
  have hcount : (q.expanded.take k).countP (fun c => !c.fromTable removed) =
      k - q.goneBefore removed k := by
    have htotal := (q.expanded.take k).length_eq_countP_add_countP
      (ExpandedColumn.fromTable removed)
    have hnot : (q.expanded.take k).countP (fun c => ¬ (c.fromTable removed) = true) =
        (q.expanded.take k).countP fun c => !c.fromTable removed :=
      List.countP_congr fun c _ => by simp
    rw [List.length_take, Nat.min_eq_left (Nat.le_of_lt hlt)] at htotal
    unfold goneBefore
    omega
  rw [h.expanded, List.getElem?_map, ← hcount, getElem?_filter_countP hc (by simpa using hkept)]
  rfl

lemma Without.distinctFields {removed : Nat} (h : q.Without removed q') (hq : q.DistinctFields) :
    q'.DistinctFields := by
  intro source hsource
  rw [h.sources] at hsource
  exact hq source (List.mem_of_mem_eraseIdx hsource)

/-- **Numbers.** A removal keeps the number of a sorting criterion. The entry it stood for goes with
the table, or moves up by the entries before it that go; so the number stands for it exactly when
neither it nor an entry before it goes. -/
theorem removeTable_number_iff (h : q.Reachable) {removed index k : Nat} {source : Source}
    {ascending : Bool} {c : ExpandedColumn} (hq : q.removeTable removed = .ok (q', source))
    (hkey : q.ordering[index]? = some ⟨.number k, ascending⟩) (hc : q.expanded[k]? = some c) :
    q'.ordering[index]? = some ⟨.number k, ascending⟩ ∧
    (c.fromTable removed = false → q'.expanded[k - q.goneBefore removed k]? =
      some (c.mapPositions (positionWithout removed))) ∧
    (q.DistinctFields →
      (c.fromTable removed = false ∧
        q'.expanded[k]? = some (c.mapPositions (positionWithout removed)) ↔
      ∀ d ∈ q.expanded.take (k + 1), d.fromTable removed = false)) := by
  have hwithout := h.consistent.without hq
  have hlt := (List.getElem?_eq_some_iff.mp hc).1
  have hmoved := hwithout.getElem?_expanded hc
  refine ⟨?_, hmoved, fun hfields => ?_⟩
  · obtain ⟨-, -, rfl⟩ := removeTable_ok_iff.mp hq
    simp [mapPositions, hkey, SortTarget.mapPositions]
  have htake : q.expanded.take (k + 1) = q.expanded.take k ++ [c] := by
    rw [List.take_add_one, hc]
    rfl
  have hnone : (∀ d ∈ q.expanded.take k, d.fromTable removed = false) ↔
      q.goneBefore removed k = 0 := by
    simp [goneBefore, List.countP_eq_zero]
  rw [htake, List.forall_mem_append, List.forall_mem_singleton, hnone, and_comm]
  refine and_congr_left fun hkept => ⟨fun hsame => ?_, fun hzero => ?_⟩
  · -- the entry is found at one place only
    have hlt' := (List.getElem?_eq_some_iff.mp hsame).1
    have heq := (List.getElem?_inj hlt' (nodup_expanded (hwithout.distinctFields hfields))).mp
      (hsame.trans (hmoved hkept).symm)
    have hle : q.goneBefore removed k ≤ k :=
      Nat.le_trans List.countP_le_length (List.length_take_le k q.expanded)
    omega
  · simpa [hzero] using hmoved hkept

/-- The third entry of the query with a spare table, `entries.amount`. -/
def spareAmount : ExpandedColumn :=
  ⟨.field ⟨{ name := "entries", fields := [{ name := "amount" }] }, "amount", some 1⟩, none, true,
    0, true⟩

theorem removeTable_number_spare : ∃ q' source,
    ((start none).run spareEdits).removeTable 0 = .ok (q', source) ∧
    q'.ordering[1]? = some ⟨.number 2, true⟩ ∧
    (spareAmount.fromTable 0 = false →
      q'.expanded[2 - ((start none).run spareEdits).goneBefore 0 2]? =
        some (spareAmount.mapPositions (positionWithout 0))) ∧
    (spareAmount.fromTable 0 = false ∧
        q'.expanded[2]? = some (spareAmount.mapPositions (positionWithout 0)) ↔
      ∀ d ∈ ((start none).run spareEdits).expanded.take 3, d.fromTable 0 = false) := by
  obtain ⟨⟨q', source⟩, hok⟩ := Except.exists_of_isOk
    (x := ((start none).run spareEdits).removeTable 0) (by decide +kernel)
  have hfields : ((start none).run spareEdits).DistinctFields := by
    unfold DistinctFields
    decide +kernel
  have hkey : ((start none).run spareEdits).ordering[1]? = some ⟨.number 2, true⟩ := by
    decide +kernel
  have hentry : ((start none).run spareEdits).expanded[2]? = some spareAmount := by
    decide +kernel
  have h := removeTable_number_iff ⟨none, spareEdits, rfl⟩ hok hkey hentry
  exact ⟨q', source, hok, h.1, h.2.1, h.2.2 hfields⟩

/-- A number is left behind: the entry it stands for is kept and moves up, and there are fewer
entries than the number says. -/
theorem number_left_behind : ∃ q' source,
    ((start none).run spareEdits).removeTable 0 = .ok (q', source) ∧
    ((start none).run spareEdits).ordering[1]? = some ⟨.number 2, true⟩ ∧
    ((start none).run spareEdits).expanded[2]? = some spareAmount ∧
    spareAmount.fromTable 0 = false ∧
    q'.ordering[1]? = some ⟨.number 2, true⟩ ∧ q'.expanded[2]? = none ∧
    q'.expanded[0]? = some (spareAmount.mapPositions (positionWithout 0)) := by
  obtain ⟨⟨q', source⟩, hok, hordering⟩ := Except.exists_of_toOption_map
    (x := ((start none).run spareEdits).removeTable 0) (f := fun left => left.1.ordering[1]?)
    (b := some ⟨.number 2, true⟩) (by decide +kernel)
  have hmissing := Except.eq_of_toOption_map (f := fun left => left.1.expanded[2]?)
    (b := none) hok (by decide +kernel)
  have hfirst := Except.eq_of_toOption_map (f := fun left => left.1.expanded[0]?)
    (b := some (spareAmount.mapPositions (positionWithout 0))) hok (by decide +kernel)
  exact ⟨q', source, hok, by decide +kernel, by decide +kernel, rfl, hordering, hmissing, hfirst⟩

end Query

end SelectBinding
