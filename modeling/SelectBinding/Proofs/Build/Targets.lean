import SelectBinding.Proofs.Build.Reread

/-!
What the sorting criteria of a query sort by when they are written and looked up again.

A criterion that is an alias or a number is found again. One that is the name of a field is looked
up under the name that is written for the field, first among the columns and then among the tables,
and this name may stand for something else there: a name without a key for any column or table that
has one like it, a key also for a table of that name. Where every table has a key of its own that is
the name of no other table, nothing of this can happen.
-/

namespace SelectBinding

namespace Query

/-! ### Looking up a criterion -/

/-- What a criterion sorts by: the first column that answers to it, or else the expanded column of
its number, or else the first field of its name. -/
def sortTarget? (q : Query) (item : SortItem) : Option SortTarget :=
  match q.columnInfo? item.qualifier? item.fieldName false with
  | some (_, info) => some (.column info.column)
  | none =>
    match item.number with
    | some 0 => none
    | some (index + 1) => if index < q.expanded.length then some (.number index) else none
    | none =>
      (q.findField? item.qualifier? item.fieldName).map fun (position, field) =>
        .field position field.name

/-- **One criterion.** A criterion is added when there is something that it sorts by. -/
lemma addSortItem_ok_iff {q q' : Query} {item : SortItem} :
    Fragments.addSortItem q item = .ok q' ↔
      ∃ target, q.sortTarget? item = some target ∧ q' = q.addSortKey target item.ascending := by
  unfold Fragments.addSortItem sortTarget?
  cases hinfo : q.columnInfo? item.qualifier? item.fieldName false with
  | some found =>
    have hlt := column_lt_of_columnInfo? hinfo
    simp only [Fragments.unexpected_ok_iff, sortByColumn, hlt, if_true, Except.ok.injEq,
      Option.some.injEq, exists_eq_left']
    exact eq_comm
  | none =>
    cases item.number with
    | some number =>
      cases number with
      | zero => simp [Fragments.sortByNumber]
      | succ index =>
        by_cases hlt : index < q.expanded.length <;>
          simp [Fragments.sortByNumber, sortByPosition, hlt, Except.mapError, eq_comm]
    | none =>
      unfold Fragments.sortByName
      cases hfound : q.findField? item.qualifier? item.fieldName with
      | none => simp
      | some found =>
        obtain ⟨source, hsource, -⟩ := findField?_some_iff.mp hfound
        obtain ⟨hlt, -⟩ := List.getElem?_eq_some_iff.mp hsource
        simp only [Fragments.unexpected_ok_iff, sortByField, hlt, if_true, Except.ok.injEq,
          Option.map_some, Option.some.injEq, exists_eq_left']
        exact eq_comm

/-- A criterion that sorts by nothing is refused at its place. -/
lemma addSortItem_error {q : Query} {item : SortItem} (h : q.sortTarget? item = none) :
    ∃ e, Fragments.addSortItem q item = .error e ∧ e.kind = .reference ∧
      e.position = item.position := by
  unfold sortTarget? at h
  unfold Fragments.addSortItem
  cases hinfo : q.columnInfo? item.qualifier? item.fieldName false with
  | some info => simp [hinfo] at h
  | none =>
    simp only [hinfo] at h ⊢
    cases hnumber : item.number with
    | none =>
      simp only [hnumber, Option.map_eq_none_iff] at h
      simp only [Fragments.sortByName, h]
      exact ⟨_, rfl, rfl, rfl⟩
    | some number =>
      cases number with
      | zero => exact ⟨_, rfl, rfl, rfl⟩
      | succ index =>
        have hbeyond : ¬ index < q.expanded.length := by
          intro hlt
          simp [hnumber, hlt] at h
        simp only [Fragments.sortByNumber, sortByPosition, hbeyond, if_false, Except.mapError]
        exact ⟨_, rfl, rfl, rfl⟩

/-- What a criterion sorts by is found in the tables and in the expanded columns. -/
lemma sortTarget?_congr {q q' : Query} (hs : q'.sources = q.sources)
    (he : q'.expanded = q.expanded) (item : SortItem) : q'.sortTarget? item = q.sortTarget? item := by
  have halias : q'.tableAlias? = q.tableAlias? := by
    funext position
    simp only [tableAlias?, hs]
  have hanswers (qualifier : Option String) (name : String) :
      q'.answers qualifier name = q.answers qualifier name := by
    funext c
    simp only [answers, halias]
  simp only [sortTarget?, columnInfo?, findField?, hanswers, hs, he]

lemma sortTarget?_of_parts {item item' : SortItem} (q : Query) (hparts : item.parts = item'.parts)
    (hnumber : item.number = item'.number) : q.sortTarget? item = q.sortTarget? item' := by
  simp only [sortTarget?, SortItem.qualifier?, SortItem.fieldName, hparts, hnumber]

/-- The criterion sorts by what the key has, in its direction. -/
def SortsAs (q : Query) (item : SortItem) (key : SortKey) : Prop :=
  q.sortTarget? item = some key.target ∧ key.ascending = item.ascending

lemma sortsAs_congr {q q' : Query} (hs : q'.sources = q.sources)
    (he : q'.expanded = q.expanded) : q'.SortsAs = q.SortsAs := by
  funext item key
  rw [SortsAs, SortsAs, sortTarget?_congr hs he]

lemma sortsAs_setOrdering (q : Query) (ordering : List SortKey) :
    { q with ordering }.SortsAs = q.SortsAs := by
  have hsources : { q with ordering }.sources = q.sources := rfl
  exact sortsAs_congr hsources (expanded_congr hsources rfl)

/-- **Sorting.** A list of criteria adds what each of them sorts by. -/
lemma addOrdering_ok_iff {q q' : Query} {items : List SortItem} :
    Fragments.addOrdering q items = .ok q' ↔
      ∃ keys, List.Forall₂ q.SortsAs items keys ∧ q' = { q with ordering := q.ordering ++ keys } := by
  induction items generalizing q with
  | nil =>
    simp only [Fragments.addOrdering, List.forall₂_nil_left_iff, exists_eq_left, List.append_nil,
      Except.ok.injEq]
    exact eq_comm
  | cons item rest ih =>
    have hcongr (target : SortTarget) :
        (q.addSortKey target item.ascending).SortsAs = q.SortsAs := q.sortsAs_setOrdering _
    simp only [Fragments.addOrdering, List.forall₂_cons_left_iff]
    constructor
    · intro h
      split at h
      · simp at h
      · rename_i q₁ hitem
        obtain ⟨target, htarget, rfl⟩ := addSortItem_ok_iff.mp hitem
        obtain ⟨keys, hkeys, rfl⟩ := ih.mp h
        rw [hcongr] at hkeys
        exact ⟨_, ⟨⟨target, item.ascending⟩, keys, ⟨htarget, rfl⟩, hkeys, rfl⟩,
          by simp [addSortKey]⟩
    · rintro ⟨_, ⟨⟨target, ascending⟩, keys, ⟨htarget, rfl⟩, hkeys, rfl⟩, rfl⟩
      rw [addSortItem_ok_iff.mpr ⟨target, htarget, rfl⟩]
      exact ih.mpr ⟨keys, by rwa [hcongr], by simp [addSortKey]⟩

/-! ### The columns that a search sees -/

/-- The columns that are no asterisks, as a search for a criterion sees them. -/
def ownColumns (q : Query) : List ExpandedColumn :=
  q.columns.zipIdx.filterMap fun entry => q.ownColumn? entry.2 entry.1

/-- The first column that answers to a criterion. -/
def ownColumnFor? (q : Query) (item : SortItem) : Option ExpandedColumn :=
  q.ownColumns.find? (q.answers item.qualifier? item.fieldName)

lemma sortTarget?_eq (q : Query) (item : SortItem) :
    q.sortTarget? item =
      match q.ownColumnFor? item with
      | some c => some (.column c.column)
      | none =>
        match item.number with
        | some 0 => none
        | some (index + 1) => if index < q.expanded.length then some (.number index) else none
        | none =>
          (q.findField? item.qualifier? item.fieldName).map fun (position, field) =>
            .field position field.name := by
  have hown : (q.columnInfo? item.qualifier? item.fieldName false).map Prod.snd =
      q.ownColumnFor? item := columnInfo?_snd q _ _
  rw [← hown, sortTarget?]
  cases q.columnInfo? item.qualifier? item.fieldName false <;> rfl

lemma sortTarget?_column_iff {q : Query} {item : SortItem} {index : Nat} :
    q.sortTarget? item = some (.column index) ↔
      ∃ c, q.ownColumnFor? item = some c ∧ c.column = index := by
  rw [sortTarget?_eq]
  cases q.ownColumnFor? item with
  | some c => simp
  | none =>
    simp only [reduceCtorEq, false_and, exists_false, iff_false]
    split
    · simp
    · split <;> simp
    · simp

lemma sortTarget?_number_iff {q : Query} {item : SortItem} {index : Nat} :
    q.sortTarget? item = some (.number index) ↔
      q.ownColumnFor? item = none ∧ item.number = some (index + 1) ∧
        index < q.expanded.length := by
  rw [sortTarget?_eq]
  cases q.ownColumnFor? item with
  | some c => simp
  | none =>
    simp only [true_and]
    split
    · rename_i h
      simp [h]
    · rename_i n h
      by_cases hlt : n < q.expanded.length
      · simp only [hlt, if_true, h, Option.some.injEq, SortTarget.number.injEq]
        exact ⟨fun heq => ⟨congrArg Nat.succ heq, heq ▸ hlt⟩, fun heq => Nat.succ.inj heq.1⟩
      · simp only [hlt, if_false, h, reduceCtorEq, Option.some.injEq, false_iff, not_and]
        intro heq
        obtain rfl := Nat.succ.inj heq
        exact hlt
    · rename_i h
      simp [h]

lemma sortTarget?_field_iff {q : Query} {item : SortItem} {p : Nat} {name : String} :
    q.sortTarget? item = some (.field p name) ↔
      q.ownColumnFor? item = none ∧ item.number = none ∧
        ∃ field, q.findField? item.qualifier? item.fieldName = some (p, field) ∧
          field.name = name := by
  rw [sortTarget?_eq]
  cases q.ownColumnFor? item with
  | some c => simp
  | none =>
    simp only [true_and]
    split
    · rename_i h
      simp [h]
    · rename_i n h
      split <;> simp [h]
    · rename_i h
      simp [h]

/-- A column that a search sees is one of the query. -/
lemma ownColumn?_of_mem {q : Query} {c : ExpandedColumn} (h : c ∈ q.ownColumns) :
    ∃ column, q.columns[c.column]? = some column ∧ q.ownColumn? c.column column = some c := by
  obtain ⟨⟨column, index⟩, hmem, hown⟩ := List.mem_filterMap.mp h
  have hget := List.mem_zipIdx_iff_getElem?.mp hmem
  obtain rfl : c.column = index := by
    unfold ownColumn? at hown
    split at hown
    · obtain rfl := Option.some.inj hown
      rfl
    · simp at hown
    · obtain rfl := Option.some.inj hown
      rfl
  exact ⟨column, hget, hown⟩

/-- A search knows a column with an alias by the alias. -/
lemma aliasName_of_ownColumn? {q : Query} {index : Nat} {column : Column} {name : String}
    {c : ExpandedColumn} (hc : q.columns[index]? = some column) (ha : column.aliasName = some name)
    (hown : q.ownColumn? index column = some c) : c.aliasName = some name := by
  obtain ⟨kind, aliasName, visible⟩ := column
  obtain rfl : aliasName = some name := ha
  cases kind with
  | field f =>
    obtain rfl := Option.some.inj hown
    rfl
  | asterisk scope => simp [ownColumn?] at hown
  | expression e =>
    obtain rfl := Option.some.inj hown
    simp [columnAlias?, hc]

/-- Names that agree are answered to by the same columns. -/
lemma answers_congr {name name' : String} (h : Name.agree name name' = true) (q : Query)
    (qualifier : Option String) : q.answers qualifier name = q.answers qualifier name' := by
  funext c
  simp only [answers, Name.agree_congr_right h]

/-! ### Criteria that are written -/

/-- The name that is written for a target, unless it is written as an alias or a number. -/
def targetName? (q : Query) : SortTarget → Option (List String)
  | .column index =>
    match q.columns[index]? with
    | some { kind := .field ⟨_, field, some position⟩, aliasName := none, .. } =>
      some (q.writtenName position field)
    | _ => none
  | .number _ => none
  | .field position field => some (q.writtenName position field)

/-- The target is found again: where a name is written for it, looking it up finds the target. -/
def KeepsTarget (q : Query) (target : SortTarget) : Prop :=
  ∀ parts ∈ q.targetName? target, q.sortTarget? { parts } = some target

/-- A column that is written as a name is one for a field, without an alias. -/
lemma column_of_targetName? {q : Query} {index : Nat} {column : Column} {parts : List String}
    (hc : q.columns[index]? = some column) (h : q.targetName? (.column index) = some parts) :
    ∃ table field p visible, column = ⟨.field ⟨table, field, some p⟩, none, visible⟩ ∧
      q.writtenName p field = parts := by
  simp only [targetName?, hc] at h
  split at h
  · rename_i hcolumn
    exact ⟨_, _, _, _, Option.some.inj hcolumn, Option.some.inj h⟩
  · simp at h

/-- A column that was found for a criterion is found by its alias. -/
lemma sortTarget?_aliased {q : Query} {index : Nat} {column : Column} {name : String}
    {item item' : SortItem} (h : q.sortTarget? item = some (.column index))
    (hc : q.columns[index]? = some column) (ha : column.aliasName = some name)
    (hitem : item'.parts = [name]) : q.sortTarget? item' = some (.column index) := by
  obtain ⟨c, hfind, rfl⟩ := sortTarget?_column_iff.mp h
  obtain ⟨column', hc', hown⟩ := ownColumn?_of_mem (List.mem_of_find?_eq_some hfind)
  obtain rfl := Option.some.inj (hc.symm.trans hc')
  have halias := aliasName_of_ownColumn? hc ha hown
  -- A column with an alias answers to the alias and to nothing else.
  have hanswers := List.find?_some hfind
  simp only [answers, halias, Bool.and_eq_true, Option.isNone_iff_eq_none] at hanswers
  refine sortTarget?_column_iff.mpr ⟨c, ?_, rfl⟩
  have hqualifier : item'.qualifier? = none := by simp [SortItem.qualifier?, hitem]
  have hname : item'.fieldName = name := by simp [SortItem.fieldName, hitem]
  rw [ownColumnFor?, hanswers.1] at hfind
  rw [ownColumnFor?, hqualifier, hname, answers_congr hanswers.2, hfind]

/-- **One criterion.** What is written for a target that a criterion had is looked up as this target
exactly when the target is kept. -/
lemma sortTarget?_written_iff {q : Query} {target : SortTarget} {item item' : SortItem}
    (h : q.sortTarget? item = some target) (hcounted : item.Counted)
    (hwrites : q.WritesTarget target item') :
    q.sortTarget? item' = some target ↔ q.KeepsTarget target := by
  cases hwrites with
  | @aliased index column _ _ hc _ ha hitem =>
    have hkeeps : q.KeepsTarget (.column index) := by
      obtain ⟨kind, aliasName, visible⟩ := column
      simp_all [KeepsTarget, targetName?]
    exact iff_of_true (sortTarget?_aliased h hc ha hitem) hkeeps
  | @listed index column f p _ hc ha hk hp hitem hn =>
    obtain ⟨kind, aliasName, visible⟩ := column
    obtain ⟨table, field, position⟩ := f
    obtain rfl : kind = _ := hk
    obtain rfl : aliasName = none := ha
    obtain rfl : position = some p := hp
    have hlookup : q.sortTarget? item' = q.sortTarget? { parts := q.writtenName p field } :=
      sortTarget?_of_parts q hitem hn
    simp only [KeepsTarget, targetName?, hc, Option.mem_some_iff, forall_eq', hlookup]
  | @number index _ hitem hn =>
    obtain ⟨hnone, hnumber, hlt⟩ := sortTarget?_number_iff.mp h
    have hparts := (hcounted _ hnumber).2
    rw [← h, sortTarget?_of_parts q (hitem.trans hparts.symm) (hn.trans hnumber.symm)]
    simp [KeepsTarget, targetName?]
  | @field p name _ hitem hn =>
    have hlookup : q.sortTarget? item' = q.sortTarget? { parts := q.writtenName p name } :=
      sortTarget?_of_parts q hitem hn
    simp only [KeepsTarget, targetName?, Option.mem_some_iff, forall_eq', hlookup]

/-- **Criteria.** What is written for keys that a list of criteria had makes the same keys exactly
when each of their targets is kept. -/
lemma sortsAs_written_iff {q : Query} {items items' : List SortItem} {keys keys' : List SortKey}
    (h : List.Forall₂ q.SortsAs items keys) (hcounted : ∀ item ∈ items, item.Counted)
    (hwrites : List.Forall₂ q.WritesKey keys items') (h' : List.Forall₂ q.SortsAs items' keys') :
    keys' = keys ↔ ∀ key ∈ keys, q.KeepsTarget key.target := by
  induction h generalizing items' keys' with
  | nil =>
    cases hwrites
    cases h'
    simp
  | @cons item key items keys hkey _ ih =>
    obtain ⟨hfirst, hrest⟩ := List.forall_mem_cons.mp hcounted
    cases hwrites with
    | @cons _ item' _ _ hwritten hwrites =>
    cases h' with
    | @cons _ key' _ _ hkey' h' =>
    have hone := sortTarget?_written_iff hkey.1 hfirst hwritten.1
    have hmore := ih hrest hwrites h'
    rw [List.cons.injEq, List.forall_mem_cons, ← hone, ← hmore, hkey'.1]
    obtain ⟨target, ascending⟩ := key
    obtain ⟨target', ascending'⟩ := key'
    have hdirection : ascending' = ascending := hkey'.2.trans hwritten.2
    simp [hdirection]

/-! ### Tables that are apart -/

/-- Every table goes by a key of its own, which is the name of no other table. -/
structure Apart (q : Query) : Prop where
  keys : ∀ source ∈ q.sources,
    q.sources.countP (fun other => Name.agree other.key source.key) = 1
  names : ∀ source ∈ q.sources, ∀ other ∈ q.sources,
    other.table.hasName source.key = true → source.table.hasName source.key = true

instance (q : Query) : Decidable q.Apart :=
  decidable_of_iff
    ((∀ source ∈ q.sources,
        q.sources.countP (fun other => Name.agree other.key source.key) = 1) ∧
      ∀ source ∈ q.sources, ∀ other ∈ q.sources,
        other.table.hasName source.key = true → source.table.hasName source.key = true)
    ⟨fun ⟨h, h'⟩ => ⟨h, h'⟩, fun h => ⟨h.keys, h.names⟩⟩

/-- Two tables that go by one key are one table. -/
lemma Apart.eq_of_key {q : Query} (h : q.Apart) {source other : Source} (hs : source ∈ q.sources)
    (ho : other ∈ q.sources) (hkey : Name.agree other.key source.key = true) : other = source := by
  have hcount := h.keys source hs
  rw [List.countP_eq_length_filter, List.length_eq_one_iff] at hcount
  obtain ⟨only, honly⟩ := hcount
  have hmem {s : Source} (hs : s ∈ q.sources) (hkey : Name.agree s.key source.key = true) :
      s = only := by
    have hfilter : s ∈ q.sources.filter fun other => Name.agree other.key source.key :=
      List.mem_filter.mpr ⟨hs, hkey⟩
    rw [honly] at hfilter
    exact List.mem_singleton.mp hfilter
  rw [hmem ho hkey, hmem hs (Name.agree_refl _)]

/-- What answers to the key of a table answers to everything that the table answers to. -/
lemma Apart.answersTo_of_key {q : Query} (h : q.Apart) {source other : Source}
    (hs : source ∈ q.sources) (ho : other ∈ q.sources)
    (hkey : other.answersTo source.key = true) {qualifier : String}
    (hq : source.answersTo qualifier = true) : other.answersTo qualifier = true := by
  simp only [Source.answersTo, Bool.or_eq_true] at hkey
  rcases hkey with hname | halias
  · have hown : Name.agree source.table.name source.key = true := h.names source hs other ho hname
    have hqualifier : Name.agree source.key qualifier = true := by
      simp only [Source.answersTo, Bool.or_eq_true] at hq
      rcases hq with hq | hq
      · exact Name.agree_trans (Name.agree_symm hown) hq
      · obtain ⟨aliasName, ha, hagree⟩ := (Option.any_eq_true _ _).mp hq
        simpa [Source.key, ha] using hagree
    have hother : other.table.hasName qualifier = true := Name.agree_trans hname hqualifier
    simp [Source.answersTo, hother]
  · obtain ⟨aliasName, ha, hagree⟩ := (Option.any_eq_true _ _).mp halias
    rwa [h.eq_of_key hs ho (by simpa [Source.key, ha] using hagree)]

lemma Apart.all_answersTo_of_key {q : Query} (h : q.Apart) {source other : Source}
    (hs : source ∈ q.sources) (ho : other ∈ q.sources)
    (hkey : other.answersTo source.key = true) {qualifier : Option String}
    (hq : qualifier.all source.answersTo = true) : qualifier.all other.answersTo = true := by
  cases qualifier with
  | none => rfl
  | some qualifier =>
    simp only [Option.all_some] at hq ⊢
    exact h.answersTo_of_key hs ho hkey hq

/-- A column without an alias answers to a name of its field after a qualifier of its table. -/
lemma answers_iff_of_field {q : Query} {c : ExpandedColumn} {f : FieldColumn} {p : Nat}
    {source : Source} (hc : c.source = .field f) (ha : c.aliasName = none)
    (hp : f.position = some p) (hsource : q.sources[p]? = some source)
    (htable : f.table = source.table) (qualifier : Option String) (name : String) :
    q.answers qualifier name c = true ↔
      Name.agree f.field name = true ∧ qualifier.all source.answersTo = true := by
  cases qualifier <;>
    simp [answers, hc, ha, hp, tableAlias?, hsource, htable, Source.answersTo, Source.hasAlias]

/-- A column that answers to a qualified name has no alias and stands for a field. -/
lemma field_of_answers {q : Query} (hbound : q.ColumnsBound) {c : ExpandedColumn}
    (hc : c ∈ q.ownColumns) {qualifier name : String}
    (h : q.answers (some qualifier) name c = true) :
    c.aliasName = none ∧ ∃ f p source, c.source = .field f ∧ f.position = some p ∧
      q.sources[p]? = some source ∧ f.table = source.table := by
  obtain ⟨⟨kind, aliasName, visible⟩, hget, hown⟩ := ownColumn?_of_mem hc
  have hwell := hbound _ (List.mem_of_getElem? hget)
  have hnone : c.aliasName = none := by
    cases hc : c.aliasName with
    | none => rfl
    | some name => simp [answers, hc] at h
  refine ⟨hnone, ?_⟩
  cases kind with
  | asterisk scope => simp [ownColumn?] at hown
  | expression e =>
    obtain ⟨source, alias', visible', index, fromAsterisk⟩ := c
    simp only [ownColumn?, Option.some.injEq, ExpandedColumn.mk.injEq] at hown
    obtain rfl : alias' = none := hnone
    simp [answers, ← hown.1] at h
  | field f =>
    obtain ⟨p, source, hp, hsource, htable, -⟩ := hwell
    obtain ⟨source', alias', visible', index, fromAsterisk⟩ := c
    simp only [ownColumn?, Option.some.injEq, ExpandedColumn.mk.injEq] at hown
    exact ⟨f, p, source, hown.1.symm, hp, hsource, htable⟩

/-- A column that answers to a field after the key of its table answers to it after whatever the
table answers to. -/
lemma Apart.answers_of_key {q : Query} (h : q.Apart) (hbound : q.ColumnsBound) {source : Source}
    (hs : source ∈ q.sources) {qualifier : Option String} {name name' : String}
    (hq : qualifier.all source.answersTo = true) (hname : Name.agree name name' = true)
    {c : ExpandedColumn} (hc : c ∈ q.ownColumns)
    (hanswers : q.answers (some source.key) name c = true) : q.answers qualifier name' c = true := by
  obtain ⟨ha, f, p, other, hf, hp, hother, htable⟩ := field_of_answers hbound hc hanswers
  rw [answers_iff_of_field hf ha hp hother htable] at hanswers ⊢
  obtain ⟨hfield, hkey⟩ := hanswers
  exact ⟨Name.agree_trans hfield hname,
    h.all_answersTo_of_key hs (List.mem_of_getElem? hother) (by simpa using hkey) hq⟩

/-- The first member that a search finds is the first one of a narrower search. -/
lemma find?_narrow {α : Type} {p p' : α → Bool} {l : List α} {a : α} (h : l.find? p = some a)
    (hnarrow : ∀ b ∈ l, p' b = true → p b = true) (ha : p' a = true) : l.find? p' = some a := by
  rw [List.find?_eq_some_iff_append] at h ⊢
  obtain ⟨-, before, after, rfl, hbefore⟩ := h
  refine ⟨ha, before, after, rfl, fun b hb => ?_⟩
  have hnot := hbefore b hb
  simp only [Bool.not_eq_true', ← Bool.not_eq_true] at hnot ⊢
  exact fun hb' => hnot (hnarrow b (by simp [hb]) hb')

/-- **Apart.** Where the tables of a query are apart, whatever a criterion sorts by is kept. -/
lemma Apart.keepsTarget {q : Query} (h : q.Apart) (hbound : q.ColumnsBound) {item : SortItem}
    {target : SortTarget} (hitem : q.sortTarget? item = some target) : q.KeepsTarget target := by
  have hwritten {p : Nat} {source : Source} (hsource : q.sources[p]? = some source)
      (name : String) : q.writtenName p name = [source.key, name] := by
    simp [writtenName, hsource, h.keys source (List.mem_of_getElem? hsource)]
  intro parts hparts
  cases target with
  | number index => simp [targetName?] at hparts
  | column index =>
    obtain ⟨c, hfind, rfl⟩ := sortTarget?_column_iff.mp hitem
    obtain ⟨column, hget, hown⟩ := ownColumn?_of_mem (List.mem_of_find?_eq_some hfind)
    obtain ⟨table, field, p, visible, rfl, rfl⟩ := column_of_targetName? hget hparts
    obtain ⟨_, source, hp, hsource, htable, -⟩ := hbound _ (List.mem_of_getElem? hget)
    obtain rfl := Option.some.inj hp
    have hc := Option.some.inj hown
    have hiff := answers_iff_of_field (congrArg ExpandedColumn.source hc).symm
      (congrArg ExpandedColumn.aliasName hc).symm hp hsource htable
    obtain ⟨hname, hq⟩ := (hiff _ _).mp (List.find?_some hfind)
    have hmem := List.mem_of_getElem? hsource
    rw [hwritten hsource]
    refine sortTarget?_column_iff.mpr ⟨c, find?_narrow hfind (fun b hb hanswers =>
      h.answers_of_key hbound hmem hq hname hb hanswers) ((hiff _ _).mpr ?_), rfl⟩
    exact ⟨Name.agree_refl field, by simp [SortItem.qualifier?, answersTo_key]⟩
  | field p name =>
    obtain ⟨hnone, hnumber, field, hfound, rfl⟩ := sortTarget?_field_iff.mp hitem
    obtain ⟨source, hsource, hq, hfield, hbefore⟩ := findField?_some_iff.mp hfound
    obtain rfl := Option.some.inj hparts
    have hname := Table.agree_of_field? hfield
    have hmem := List.mem_of_getElem? hsource
    rw [hwritten hsource]
    refine sortTarget?_field_iff.mpr ⟨?_, rfl, field, findField?_some_iff.mpr ⟨source, hsource,
      by simp [SortItem.qualifier?, answersTo_key], ?_, fun i hi s hs hkey => ?_⟩, rfl⟩
    · rw [ownColumnFor?, List.find?_eq_none] at hnone ⊢
      exact fun c hc hanswers => hnone c hc (h.answers_of_key hbound hmem hq hname hc hanswers)
    · exact (Table.field?_congr hname source.table).trans hfield
    · have hanswers := h.all_answersTo_of_key hmem (List.mem_of_getElem? hs)
        (by simpa [SortItem.qualifier?] using hkey) hq
      exact (Table.field?_congr hname s.table).trans (hbefore i hi s hs hanswers)

end Query

namespace Fragments

open Query

/-- **Provenance.** What a built query is sorted by is what the criteria of the statement sort by in
it. -/
lemma build_sortsAs {lookup? : Lookup} {parts : Fragments} {q : Query}
    (h : build lookup? parts = .ok q) :
    List.Forall₂ q.SortsAs ((parts.clauses.map Clauses.ordering).getD []) q.ordering := by
  obtain ⟨scope, q₁, q₂, -, hcolumns, hfilter, hordering⟩ := build_ok_iff.mp h
  obtain ⟨columns, -, rfl⟩ := addColumns_ok_iff.mp hcolumns
  obtain ⟨filter, rfl⟩ := addFilter_eq hfilter
  obtain ⟨keys, hkeys, rfl⟩ := addOrdering_ok_iff.mp hordering
  rw [sortsAs_setOrdering]
  exact hkeys

end Fragments

end SelectBinding
