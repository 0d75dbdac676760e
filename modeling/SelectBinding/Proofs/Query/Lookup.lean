import Mathlib.Tactic.Lemma
import SelectBinding.Query.Expansion

/-!
What is found in a query by a name: fields of its tables and columns of its list.

The expansion of a query depends on its tables and columns alone, and a column that is no asterisk
expands to itself. So a search that passes asterisks over is a search of the column list.
-/

namespace SelectBinding

namespace Query

/-! ### Fields of the tables -/

/-- The search stops at the first source that may be meant and has the field. -/
lemma findFieldFrom_some_iff {first : Nat} {qualifier : Option String} {name : String}
    {sources : List Source} {position : Nat} {field : Field} :
    findFieldFrom first qualifier name sources = some (position, field) ↔
      ∃ p source, position = first + p ∧ sources[p]? = some source ∧
        qualifier.all source.answersTo = true ∧ source.table.field? name = some field ∧
        ∀ i < p, ∀ s, sources[i]? = some s → qualifier.all s.answersTo = true →
          s.table.field? name = none := by
  induction sources generalizing first with
  | nil => simp [findFieldFrom]
  | cons s rest ih =>
    by_cases hstop : ∃ found, qualifier.all s.answersTo = true ∧ s.table.field? name = some found
    · obtain ⟨found, hq, hfound⟩ := hstop
      simp only [findFieldFrom, hq, if_true, hfound, Option.some.injEq, Prod.mk.injEq]
      constructor
      · rintro ⟨rfl, rfl⟩
        exact ⟨0, s, rfl, rfl, hq, hfound, by simp⟩
      · rintro ⟨p, source, rfl, hat, -, hfield, hbefore⟩
        cases p with
        | zero =>
          obtain rfl : s = source := by simpa using hat
          exact ⟨rfl, Option.some.inj (hfound.symm.trans hfield)⟩
        | succ p =>
          have := hbefore 0 (by omega) s rfl hq
          simp [hfound] at this
    · have hnone : (if qualifier.all s.answersTo then s.table.field? name else none) = none := by
        by_cases hq : qualifier.all s.answersTo = true
        · rw [if_pos hq]
          exact Option.eq_none_iff_forall_ne_some.mpr fun found hfound => hstop ⟨found, hq, hfound⟩
        · simp [hq]
      simp only [findFieldFrom, hnone, ih]
      constructor
      · rintro ⟨p, source, rfl, hat, hq, hfield, hbefore⟩
        refine ⟨p + 1, source, by omega, by simpa using hat, hq, hfield, fun i hi s' hs' hq' => ?_⟩
        cases i with
        | zero =>
          obtain rfl : s = s' := by simpa using hs'
          simpa [hq'] using hnone
        | succ i => exact hbefore i (by omega) s' (by simpa using hs') hq'
      · rintro ⟨p, source, rfl, hat, hq, hfield, hbefore⟩
        cases p with
        | zero =>
          obtain rfl : s = source := by simpa using hat
          exact absurd ⟨field, hq, hfield⟩ hstop
        | succ p =>
          exact ⟨p, source, by omega, by simpa using hat, hq, hfield, fun i hi s' hs' hq' =>
            hbefore (i + 1) (by omega) s' (by simpa using hs') hq'⟩

/-- **Fields.** A field is found in the first table that may be meant and has it. -/
lemma findField?_some_iff {q : Query} {qualifier : Option String} {name : String} {position : Nat}
    {field : Field} :
    q.findField? qualifier name = some (position, field) ↔
      ∃ source, q.sources[position]? = some source ∧ qualifier.all source.answersTo = true ∧
        source.table.field? name = some field ∧
        ∀ i < position, ∀ s, q.sources[i]? = some s → qualifier.all s.answersTo = true →
          s.table.field? name = none := by
  rw [findField?, findFieldFrom_some_iff]
  simp only [Nat.zero_add]
  constructor
  · rintro ⟨_, source, rfl, h⟩
    exact ⟨source, h⟩
  · rintro ⟨source, h⟩
    exact ⟨position, source, rfl, h⟩

/-- Where a table that may be meant has the field, some table is found. -/
lemma findFieldFrom_isSome {qualifier : Option String} {name : String} {sources : List Source}
    {source : Source} (hmem : source ∈ sources) (hq : qualifier.all source.answersTo = true)
    (hfield : (source.table.field? name).isSome = true) (first : Nat) :
    (findFieldFrom first qualifier name sources).isSome = true := by
  induction sources generalizing first with
  | nil => simp at hmem
  | cons s rest ih =>
    rw [findFieldFrom]
    split
    · rfl
    · rename_i hnone
      rcases List.mem_cons.mp hmem with rfl | hmem
      · rw [if_pos hq] at hnone
        simp [hnone] at hfield
      · exact ih hmem (first + 1)

/-- No field is found when no table that may be meant has it. -/
lemma findField?_eq_none_iff {q : Query} {qualifier : Option String} {name : String} :
    q.findField? qualifier name = none ↔
      ∀ source ∈ q.sources, qualifier.all source.answersTo = true →
        source.table.field? name = none := by
  constructor
  · intro hnone source hmem hq
    cases hfield : source.table.field? name with
    | none => rfl
    | some field =>
      have hsome := findFieldFrom_isSome hmem hq (by rw [hfield]; rfl) 0
      rw [← findField?, hnone] at hsome
      cases hsome
  · refine fun h => Option.eq_none_iff_forall_ne_some.mpr fun found hfound => ?_
    obtain ⟨source, hsource, hq, hfield, -⟩ := findField?_some_iff.mp hfound
    rw [h source (List.mem_of_getElem? hsource) hq] at hfield
    cases hfield

/-! ### Expansion -/

lemma expandColumn_congr {q q' : Query} (hs : q.sources = q'.sources)
    (hc : q.columns = q'.columns) (index : Nat) (column : Column) :
    q.expandColumn index column = q'.expandColumn index column := by
  have hfields : ∀ visible, q.fieldsAt index visible = q'.fieldsAt index visible := by
    intro visible
    funext position
    simp only [fieldsAt, hs]
  simp only [expandColumn, hfields, hs, columnAlias?, hc]

lemma expandFrom_congr {q q' : Query} (hs : q.sources = q'.sources) (hc : q.columns = q'.columns)
    (index : Nat) (columns : List Column) :
    q.expandFrom index columns = q'.expandFrom index columns := by
  induction columns generalizing index with
  | nil => rfl
  | cons column rest ih => simp only [expandFrom, expandColumn_congr hs hc, ih]

/-- The expansion reads the tables and the columns alone. -/
lemma expanded_congr {q q' : Query} (hs : q.sources = q'.sources) (hc : q.columns = q'.columns) :
    q.expanded = q'.expanded := by
  rw [expanded, expanded, hc, expandFrom_congr hs hc]

/-- What a column expands to comes from its index. -/
lemma column_of_mem_expandColumn {q : Query} {index : Nat} {column : Column} {c : ExpandedColumn}
    (h : c ∈ q.expandColumn index column) : c.column = index := by
  have hfields : ∀ position, c ∈ q.fieldsAt index column.visible position → c.column = index := by
    intro position hc
    unfold fieldsAt at hc
    split at hc
    · simp at hc
    · obtain ⟨field, -, rfl⟩ := List.mem_map.mp hc
      rfl
  unfold expandColumn at h
  split at h
  · obtain rfl := List.mem_singleton.mp h
    rfl
  · exact hfields _ h
  · obtain ⟨position, -, hc⟩ := List.mem_flatMap.mp h
    exact hfields position hc
  · obtain rfl := List.mem_singleton.mp h
    rfl

lemma column_lt_of_mem_expandFrom {q : Query} {first : Nat} {columns : List Column}
    {c : ExpandedColumn} (h : c ∈ q.expandFrom first columns) :
    c.column < first + columns.length := by
  induction columns generalizing first with
  | nil => simp [expandFrom] at h
  | cons column rest ih =>
    rcases List.mem_append.mp h with h | h
    · have := column_of_mem_expandColumn h
      simp only [List.length_cons]
      omega
    · have := ih h
      simp only [List.length_cons]
      omega

lemma firstFrom_mem {first index : Nat} {p : ExpandedColumn → Bool} {l : List ExpandedColumn}
    {c : ExpandedColumn} (h : firstFrom first p l = some (index, c)) : c ∈ l := by
  induction l generalizing first with
  | nil => simp [firstFrom] at h
  | cons a l ih =>
    simp only [firstFrom] at h
    split at h
    · obtain ⟨-, rfl⟩ := Prod.mk.inj (Option.some.inj h)
      simp
    · exact List.mem_cons_of_mem _ (ih h)

/-- **Columns.** A column that is found is there. -/
lemma column_lt_of_columnInfo? {q : Query} {qualifier : Option String} {name : String}
    {asterisks : Bool} {index : Nat} {c : ExpandedColumn}
    (h : q.columnInfo? qualifier name asterisks = some (index, c)) :
    c.column < q.columns.length := by
  simpa using column_lt_of_mem_expandFrom (firstFrom_mem h)

/-- The entry that a column expands to, unless it is an asterisk. -/
def ownColumn? (q : Query) (index : Nat) (column : Column) : Option ExpandedColumn :=
  match column.kind with
  | .field field => some ⟨.field field, column.aliasName, column.visible, index, false⟩
  | .asterisk _ => none
  | .expression _ => some ⟨.expression index, q.columnAlias? index, column.visible, index, false⟩

lemma expandColumn_filter (q : Query) (index : Nat) (column : Column) :
    ((q.expandColumn index column).filter fun c => !c.fromAsterisk) =
      (q.ownColumn? index column).toList := by
  have hfields : ∀ position,
      ((q.fieldsAt index column.visible position).filter fun c => !c.fromAsterisk) = [] := by
    intro position
    unfold fieldsAt
    split <;> simp
  unfold expandColumn ownColumn?
  split <;> simp [List.filter_flatMap, *]

lemma expandFrom_filter (q : Query) (first : Nat) (columns : List Column) :
    ((q.expandFrom first columns).filter fun c => !c.fromAsterisk) =
      (columns.zipIdx first).filterMap fun entry => q.ownColumn? entry.2 entry.1 := by
  induction columns generalizing first with
  | nil => rfl
  | cons column rest ih =>
    rw [expandFrom, List.filter_append, expandColumn_filter, ih, List.zipIdx_cons,
      List.filterMap_cons]
    cases q.ownColumn? first column <;> rfl

lemma firstFrom_snd (first : Nat) (p : ExpandedColumn → Bool) (l : List ExpandedColumn) :
    (firstFrom first p l).map Prod.snd = l.find? p := by
  induction l generalizing first with
  | nil => rfl
  | cons c l ih =>
    simp only [firstFrom, List.find?_cons]
    cases p c <;> simp [ih]

/-- **Columns without asterisks.** A search that passes asterisks over finds the first column whose
own entry answers to the name. -/
lemma columnInfo?_snd (q : Query) (qualifier : Option String) (name : String) :
    (q.columnInfo? qualifier name false).map Prod.snd =
      (q.columns.zipIdx.filterMap fun entry => q.ownColumn? entry.2 entry.1).find?
        (q.answers qualifier name) := by
  rw [columnInfo?, firstFrom_snd, expanded, ← expandFrom_filter, List.find?_filter]
  congr 1
  funext c
  simp

end Query

end SelectBinding
