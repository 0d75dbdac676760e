import SelectBinding.Build
import SelectBinding.Proofs.Scope.Names

/-!
The keys under which tables are registered.

A scope is always made of a list of tables, each with its key, so a position is registered under
the key that stands beside its table and under no other.
-/

namespace SelectBinding

namespace Scope

/-- The scope of a list of tables, each with the key it is registered under. -/
def ofKeyed (tables : List (Source × String)) : Scope :=
  ⟨tables.map Prod.fst, tables.zipIdx.map fun entry => (Name.fold entry.1.2, entry.2)⟩

lemma sources_ofKeyed (tables : List (Source × String)) :
    (ofKeyed tables).sources = tables.map Prod.fst := rfl

lemma ofSources_eq (sources : List Source) :
    ofSources sources = ofKeyed (sources.map fun source => (source, source.key)) := by
  simp [ofSources, ofKeyed, List.zipIdx_map, Function.comp_def]

/-- Tables that are registered under their own keys make the scope of these tables. -/
lemma ofKeyed_eq_ofSources {tables : List (Source × String)}
    (h : ∀ entry ∈ tables, Name.agree entry.1.key entry.2 = true) :
    ofKeyed tables = ofSources (tables.map Prod.fst) := by
  simp only [ofKeyed, ofSources, List.zipIdx_map, List.map_map, Scope.mk.injEq, true_and]
  refine List.map_congr_left fun entry hentry => ?_
  have hkey := Name.agree_iff.mp (h entry.1 (List.fst_mem_of_mem_zipIdx hentry))
  simp [hkey]

/-- Registering a table as it is added puts it at the end of the list. -/
lemma ofKeyed_append (tables : List (Source × String)) (source : Source) (key : String) :
    ((ofKeyed tables).register key (ofKeyed tables).sources.length).addTable source =
      ofKeyed (tables ++ [(source, key)]) := by
  simp [ofKeyed, register, addTable, List.zipIdx_append]

lemma mem_positionsFor {tables : List (Source × String)} {key : String} {p : Nat} :
    p ∈ (ofKeyed tables).positionsFor key ↔
      ∃ entry, tables[p]? = some entry ∧ Name.agree entry.2 key = true := by
  simp only [positionsFor, ofKeyed, List.mem_map, List.mem_filter, beq_iff_eq, Prod.exists,
    List.mem_zipIdx_iff_getElem?, Name.agree_iff]
  constructor
  · rintro ⟨_, _, ⟨⟨source, key', i, hget, hentry⟩, hkey⟩, rfl⟩
    obtain ⟨rfl, rfl⟩ := Prod.mk.inj hentry
    exact ⟨source, key', hget, hkey⟩
  · rintro ⟨source, key', hget, hkey⟩
    exact ⟨Name.fold key', p, ⟨⟨source, key', p, hget, rfl⟩, hkey⟩, rfl⟩

/-- Positions are registered in the order of the tables. -/
lemma positionsFor_ascending (tables : List (Source × String)) (key : String) :
    ((ofKeyed tables).positionsFor key).Pairwise (· < ·) := by
  have h : (ofKeyed tables).keys.map Prod.snd = List.range tables.length := by
    simp [ofKeyed, Function.comp_def, List.range_eq_range']
  have hrange : ((ofKeyed tables).keys.map Prod.snd).Pairwise (· < ·) := h ▸ List.pairwise_lt_range
  exact hrange.sublist (List.filter_sublist.map Prod.snd)

lemma positionsFor_nodup (tables : List (Source × String)) (key : String) :
    ((ofKeyed tables).positionsFor key).Nodup :=
  (positionsFor_ascending tables key).imp Nat.ne_of_lt

/-- **Keys.** One position stands for a key when it is the only one registered under it. -/
lemma positionsFor_eq_singleton_iff {tables : List (Source × String)} {key : String} {p : Nat} :
    (ofKeyed tables).positionsFor key = [p] ↔
      (∃ entry, tables[p]? = some entry ∧ Name.agree entry.2 key = true) ∧
        ∀ i entry, tables[i]? = some entry → Name.agree entry.2 key = true → i = p := by
  constructor
  · intro h
    refine ⟨mem_positionsFor.mp (by simp [h]), fun i entry hget hkey => ?_⟩
    have hi := mem_positionsFor.mpr ⟨entry, hget, hkey⟩
    simpa [h] using hi
  · rintro ⟨hp, honly⟩
    have hmem := mem_positionsFor.mpr hp
    have hall : ∀ i ∈ (ofKeyed tables).positionsFor key, i = p := by
      intro i hi
      obtain ⟨entry, hget, hkey⟩ := mem_positionsFor.mp hi
      exact honly i entry hget hkey
    have hnodup := positionsFor_nodup tables key
    rcases hl : (ofKeyed tables).positionsFor key with _ | ⟨a, _ | ⟨b, l⟩⟩
    · simp [hl] at hmem
    · simpa [hl] using hall
    · rw [hl] at hnodup
      have ha := hall a (by simp [hl])
      have hb := hall b (by simp [hl])
      simp [ha, hb] at hnodup

/-- The same where each table is registered under its own key. -/
lemma positionsFor_ofSources_iff {sources : List Source} {key : String} {p : Nat} :
    (ofSources sources).positionsFor key = [p] ↔
      (∃ source, sources[p]? = some source ∧ Name.agree source.key key = true) ∧
        ∀ i source, sources[i]? = some source → Name.agree source.key key = true → i = p := by
  rw [ofSources_eq, positionsFor_eq_singleton_iff]
  simp only [List.getElem?_map, Option.map_eq_some_iff, exists_exists_and_eq_and,
    forall_exists_index, and_imp, forall_apply_eq_imp_iff₂]

end Scope

namespace Fragments

/-- What the tables of a statement are, and their keys. -/
def keyedTables (lookup? : Lookup) (items : List Expr) :
    Except Diagnostic (List (Source × String)) :=
  items.mapM (source lookup?)

lemma addTables_ofKeyed (lookup? : Lookup) (tables : List (Source × String)) (items : List Expr) :
    addTables lookup? (.ofKeyed tables) items =
      (keyedTables lookup? items).map fun more => Scope.ofKeyed (tables ++ more) := by
  induction items generalizing tables with
  | nil => simp [addTables, keyedTables, Except.map, pure, Except.pure]
  | cons item rest ih =>
    simp only [addTables, keyedTables, List.mapM_cons] at ih ⊢
    cases hs : source lookup? item with
    | error e => rfl
    | ok entry =>
      obtain ⟨found, key⟩ := entry
      simp only [Scope.ofKeyed_append, ih, bind, Except.bind]
      cases List.mapM (source lookup?) rest with
      | error e => rfl
      | ok more => simp [Except.map, pure, Except.pure]

/-- **Tables.** The scope of a statement is made of its tables and their keys. -/
lemma addTables_ok_iff {lookup? : Lookup} {items : List Expr} {scope : Scope} :
    addTables lookup? {} items = .ok scope ↔
      ∃ tables, keyedTables lookup? items = .ok tables ∧ Scope.ofKeyed tables = scope := by
  have h := addTables_ofKeyed lookup? [] items
  simp only [List.nil_append] at h
  rw [show ({} : Scope) = .ofKeyed [] from rfl, h, Except.map_eq_ok_iff]

lemma source_ok_iff {lookup? : Lookup} {item : Expr} {entry : Source × String} :
    source lookup? item = .ok entry ↔
      ∃ v aliasName table, tableItem item = .ok (v, aliasName) ∧ lookup? v.name = some table ∧
        entry = (⟨table, aliasName.bind Query.givenAlias⟩, aliasName.getD v.name) := by
  unfold source
  split
  · rename_i h
    simp [h]
  · rename_i v aliasName h
    split
    · rename_i table htable
      simp only [h, Except.ok.injEq, Prod.mk.injEq, exists_and_left]
      constructor
      · rintro rfl
        exact ⟨v, aliasName, ⟨rfl, rfl⟩, table, htable, rfl⟩
      · rintro ⟨_, _, ⟨rfl, rfl⟩, table', htable', rfl⟩
        obtain rfl := Option.some.inj (htable.symm.trans htable')
        rfl
    · rename_i hnone
      simp only [h, Except.ok.injEq, Prod.mk.injEq, reduceCtorEq, false_iff]
      rintro ⟨_, _, table, ⟨rfl, rfl⟩, htable, -⟩
      simp [hnone] at htable

/-- Each table of a statement is the one that its item stands for. -/
lemma keyedTables_mem {lookup? : Lookup} {items : List Expr} {tables : List (Source × String)}
    (h : keyedTables lookup? items = .ok tables) {entry : Source × String} (he : entry ∈ tables) :
    ∃ item ∈ items, source lookup? item = .ok entry :=
  exists_left_of_forall₂ (Except.mapM_ok_iff.mp h) he

/-- An alias that is kept is the key. -/
lemma source_key_of_alias {lookup? : Lookup} {item : Expr} {entry : Source × String}
    {aliasName : String} (h : source lookup? item = .ok entry)
    (ha : entry.1.aliasName = some aliasName) : entry.2 = aliasName := by
  obtain ⟨v, given, table, -, -, rfl⟩ := source_ok_iff.mp h
  obtain ⟨name, rfl, hname⟩ := Option.bind_eq_some_iff.mp ha
  unfold Query.givenAlias at hname
  split at hname
  · simp at hname
  · exact Option.some.inj hname

/-- A key that is no alias is the name under which the table was looked up, or empty. -/
lemma source_key_of_no_alias {lookup? : Lookup} {item : Expr} {entry : Source × String}
    (h : source lookup? item = .ok entry) (ha : entry.1.aliasName = none) :
    entry.2 = "" ∨ lookup? entry.2 = some entry.1.table := by
  obtain ⟨v, given, table, -, htable, rfl⟩ := source_ok_iff.mp h
  cases given with
  | none => exact Or.inr htable
  | some name =>
    simp only [Option.bind_some, Query.givenAlias] at ha
    split at ha
    · exact Or.inl (by simp_all)
    · simp at ha

end Fragments

end SelectBinding
