import SelectBinding.Catalog.File
import SelectBinding.Proofs.Catalog.Contents

/-!
Catalogs of lists of tables.

A list of tables makes a catalog when no two of them go by the same name; else the first one whose
name is taken is refused. A file holds the tables in the order of their names, and the catalog of
these answers as the one that was written.
-/

namespace SelectBinding.Catalog

variable {catalog : Catalog} {table : Table} {tables : List Table}

/-! ### Adding a list -/

lemma add_ok_iff {catalog' : Catalog} :
    catalog.add table = .ok catalog' ↔
      key table ∉ catalog.tables.map key ∧ catalog' = ⟨catalog.tables ++ [table]⟩ := by
  rw [add, ← hasTable_iff]
  split
  · rename_i hthere
    simp [hthere]
  · rename_i hthere
    simp [hthere, eq_comm]

lemma add_fails_iff {e : CatalogError} :
    catalog.add table = .error e ↔
      key table ∈ catalog.tables.map key ∧ e = .duplicateTable table.name := by
  rw [add_error_iff, ← Option.isSome_iff_exists, ← hasTable, hasTable_iff, and_comm]

/-- The table goes by the name of an earlier one of the list, and is the first to do so. -/
def FirstTaken (tables : List Table) (table : Table) : Prop :=
  ∃ before after, tables = before ++ table :: after ∧ (before.map key).Nodup ∧
    key table ∈ before.map key

/-- Adding goes through the list as long as the names are new. -/
lemma Distinct.addAll_ok_iff (h : catalog.Distinct) {catalog' : Catalog} :
    catalog.addAll tables = .ok catalog' ↔
      Distinct ⟨catalog.tables ++ tables⟩ ∧ catalog' = ⟨catalog.tables ++ tables⟩ := by
  induction tables generalizing catalog with
  | nil => simpa [addAll, eq_comm] using fun _ => h
  | cons table rest ih =>
    rw [addAll]
    cases hadd : catalog.add table with
    | error e =>
      obtain ⟨hthere, -⟩ := add_fails_iff.mp hadd
      refine iff_of_false nofun fun hall => ?_
      have hnodup := hall.1
      rw [Distinct, List.map_append, List.map_cons, List.nodup_append] at hnodup
      exact hnodup.2.2 _ hthere _ List.mem_cons_self rfl
    | ok next =>
      obtain ⟨hnew, rfl⟩ := add_ok_iff.mp hadd
      simp only [ih (h.concat hnew), List.append_assoc, List.singleton_append]

/-- Adding stops at the first table whose name is taken. -/
lemma Distinct.addAll_error_iff (h : catalog.Distinct) {e : CatalogError} :
    catalog.addAll tables = .error e ↔
      ∃ before table after, tables = before ++ table :: after ∧
        Distinct ⟨catalog.tables ++ before⟩ ∧ key table ∈ (catalog.tables ++ before).map key ∧
        e = .duplicateTable table.name := by
  induction tables generalizing catalog with
  | nil => simp [addAll]
  | cons table rest ih =>
    rw [addAll]
    cases hadd : catalog.add table with
    | error e' =>
      obtain ⟨hthere, rfl⟩ := add_fails_iff.mp hadd
      constructor
      · rintro ⟨⟩
        exact ⟨[], table, rest, rfl, by simpa using h, by simpa using hthere, rfl⟩
      · rintro ⟨before, other, after, hsplit, hdistinct, hmem, rfl⟩
        cases before with
        | nil =>
          obtain ⟨rfl, -⟩ := List.cons.inj hsplit
          rfl
        | cons first more =>
          obtain ⟨rfl, -⟩ := List.cons.inj hsplit
          rw [Distinct, List.map_append, List.map_cons, List.nodup_append] at hdistinct
          exact absurd rfl (hdistinct.2.2 _ hthere _ List.mem_cons_self)
    | ok next =>
      obtain ⟨hnew, rfl⟩ := add_ok_iff.mp hadd
      simp only [ih (h.concat hnew), List.append_assoc, List.singleton_append]
      constructor
      · rintro ⟨before, other, after, rfl, hdistinct, hmem, rfl⟩
        exact ⟨table :: before, other, after, rfl, hdistinct, hmem, rfl⟩
      · rintro ⟨before, other, after, hsplit, hdistinct, hmem, rfl⟩
        cases before with
        | nil =>
          obtain ⟨rfl, -⟩ := List.cons.inj hsplit
          exact absurd (by simpa using hmem) hnew
        | cons first more =>
          obtain ⟨rfl, rfl⟩ := List.cons.inj hsplit
          exact ⟨more, other, after, rfl, hdistinct, hmem, rfl⟩

lemma empty_distinct : empty.Distinct :=
  List.nodup_nil

lemma ofTables_ok_iff :
    ofTables tables = .ok catalog ↔ (tables.map key).Nodup ∧ catalog = ⟨tables⟩ :=
  empty_distinct.addAll_ok_iff

lemma ofTables_error_iff {e : CatalogError} :
    ofTables tables = .error e ↔
      ∃ table, FirstTaken tables table ∧ e = .duplicateTable table.name := by
  constructor
  · intro h
    obtain ⟨before, table, after, hsplit, hnodup, hmem, he⟩ := empty_distinct.addAll_error_iff.mp h
    exact ⟨table, ⟨before, after, hsplit, hnodup, hmem⟩, he⟩
  · rintro ⟨table, ⟨before, after, hsplit, hnodup, hmem⟩, he⟩
    exact empty_distinct.addAll_error_iff.mpr
      ⟨before, table, after, hsplit, hnodup, hmem, he⟩

/-! ### The same tables in another order -/

lemma Distinct.lookup?_perm {catalog' : Catalog} (h : catalog.Distinct)
    (hperm : catalog'.tables.Perm catalog.tables) (name : String) :
    catalog'.lookup? name = catalog.lookup? name := by
  have h' : catalog'.Distinct := (hperm.map key).nodup_iff.mpr h
  refine Option.ext fun table => ?_
  rw [h'.lookup?_eq_some_iff, h.lookup?_eq_some_iff, hperm.mem_iff]

lemma sorted_sorted (catalog : Catalog) : sorted ⟨catalog.sorted⟩ = catalog.sorted := by
  rw [sorted_eq_insertionSort]
  exact catalog.sorted_pairwise.insertionSort_eq

lemma Distinct.sorted_strict (h : catalog.Distinct) :
    catalog.sorted.Pairwise fun a b => a.name < b.name :=
  List.pairwise_map.mp h.names_sorted

/-- The catalog holds the tables of a list, and its file is a snapshot of it. -/
structure HoldsSnapshot (catalog : Catalog) (tables : List Table) : Prop where
  /-- The tables of the file are those of the list. -/
  perm : catalog.sorted.Perm tables
  /-- They stand in the file in strictly ascending order of their names. -/
  ascending : catalog.sorted.Pairwise fun a b => a.name < b.name
  /-- There is nothing else in the file. -/
  file : catalog.toData = Table.allToData catalog.sorted
  /-- The tables of the file make a catalog that gives the same answers. -/
  reloads : ∃ catalog', ofTables catalog.sorted = .ok catalog' ∧
    (∀ name, catalog'.lookup? name = catalog.lookup? name) ∧ catalog'.names = catalog.names

/-- **Snapshots.** A list of tables makes a catalog exactly when their folded names are pairwise
distinct; else the refusal names the first table whose folded name occurred before it. A catalog
that is made holds the tables of the list, and the file of it, in which they are sorted by name,
makes a catalog that finds the same tables under the same names. -/
theorem ofTables_snapshot (tables : List Table) :
    ((∃ catalog, ofTables tables = .ok catalog) ↔ (tables.map key).Nodup) ∧
      (∀ e, ofTables tables = .error e ↔
        ∃ table, FirstTaken tables table ∧ e = .duplicateTable table.name) ∧
      ∀ catalog, ofTables tables = .ok catalog → catalog.HoldsSnapshot tables := by
  refine ⟨?_, fun e => ofTables_error_iff, fun catalog hcatalog => ?_⟩
  · simp only [ofTables_ok_iff, exists_and_left, exists_eq, and_true]
  · obtain ⟨hnodup, rfl⟩ := ofTables_ok_iff.mp hcatalog
    have hdistinct : Distinct ⟨tables⟩ := hnodup
    have hperm := sorted_perm ⟨tables⟩
    refine ⟨hperm, hdistinct.sorted_strict, rfl, ⟨sorted ⟨tables⟩⟩, ?_, ?_, ?_⟩
    · exact ofTables_ok_iff.mpr ⟨(hperm.map key).nodup_iff.mpr hnodup, rfl⟩
    · exact hdistinct.lookup?_perm hperm
    · rw [names, names, sorted_sorted]

/-- The third table takes the name of the first in other letters, and is the one that is named. -/
theorem ofTables_snapshot_orders :
    ofTables [{ name := "orders" }, { name := "Items" }, { name := "ORDERS" }] =
        .error (.duplicateTable "ORDERS") ∧
      ∃ catalog, ofTables [{ name := "orders" }, { name := "Items" }] = .ok catalog ∧
        catalog.HoldsSnapshot [{ name := "orders" }, { name := "Items" }] := by
  obtain ⟨hmakes, -, hholds⟩ := ofTables_snapshot [{ name := "orders" }, { name := "Items" }]
  obtain ⟨catalog, hcatalog⟩ := hmakes.mpr (by decide)
  exact ⟨by rfl, catalog, hcatalog, hholds catalog hcatalog⟩

end SelectBinding.Catalog
