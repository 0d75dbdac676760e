import Mathlib.Data.Finset.Card
import Mathlib.Data.List.Sort
import Mathlib.Data.Set.Card
import Mathlib.Data.String.Basic
import Mathlib.Tactic.Lemma
import SelectBinding.Catalog

/-!
What a catalog holds after any number of changes.

A catalog is a map from folded names to tables: under a name stands the table that was added when
nothing stood there, for as long as nothing removes it. The names are listed in the order of their
code points, each of them once.
-/

namespace SelectBinding.Catalog

/-! ### Names in order -/

lemma textLe_iff (as bs : List Char) : textLe as bs = true ↔ ¬ bs < as := by
  induction as generalizing bs with
  | nil => simp [textLe]
  | cons a as ih =>
    cases bs with
    | nil => simp [textLe]
    | cons b bs =>
      have hlt : a.toNat < b.toNat ↔ a < b := by
        rw [Char.lt_def, UInt32.lt_iff_toNat_lt]
        rfl
      rw [List.cons_lt_cons_iff, textLe, Bool.or_eq_true, decide_eq_true_eq, hlt, Bool.and_eq_true,
        beq_iff_eq, ih]
      rcases lt_trichotomy a b with h | rfl | h
      · simp [h, h.not_gt, h.ne']
      · simp
      · simp [h, h.not_gt, h.ne']

lemma nameLe_iff {a b : Table} : nameLe a b = true ↔ a.name ≤ b.name := by
  rw [nameLe, textLe_iff, ← String.lt_iff_toList_lt, not_lt]

/-- Tables by the order of their names. -/
def NameLe (a b : Table) : Prop :=
  a.name ≤ b.name

instance : DecidableRel NameLe := fun a b => inferInstanceAs (Decidable (a.name ≤ b.name))

instance : Std.Total NameLe := ⟨fun a b => le_total a.name b.name⟩

instance : IsTrans Table NameLe := ⟨fun _ _ _ => le_trans⟩

lemma insertByName_eq (table : Table) (tables : List Table) :
    insertByName table tables = tables.orderedInsert NameLe table := by
  induction tables with
  | nil => rfl
  | cons other rest ih =>
    rw [insertByName, List.orderedInsert_cons, ih]
    exact if_congr nameLe_iff rfl rfl

lemma sorted_eq_insertionSort (catalog : Catalog) :
    catalog.sorted = catalog.tables.insertionSort NameLe := by
  have hinsert : insertByName = List.orderedInsert NameLe :=
    funext fun table => funext fun tables => insertByName_eq table tables
  rw [sorted, hinsert, List.insertionSort]

lemma sorted_perm (catalog : Catalog) : catalog.sorted.Perm catalog.tables := by
  rw [sorted_eq_insertionSort]
  exact List.perm_insertionSort _ _

lemma sorted_pairwise (catalog : Catalog) : catalog.sorted.Pairwise NameLe := by
  rw [sorted_eq_insertionSort]
  exact List.pairwise_insertionSort _ _

/-! ### Tables of different names -/

/-- The form under which the name of a table is stored. -/
def key (table : Table) : String :=
  Name.fold table.name

/-- No two tables go by the same name. -/
def Distinct (catalog : Catalog) : Prop :=
  (catalog.tables.map key).Nodup

variable {catalog : Catalog} {table : Table} {name : String}

lemma hasName_iff : table.hasName name = true ↔ key table = Name.fold name :=
  Name.agree_iff

/-- **Lookup.** Among tables of different names a name finds each of those that go by it. -/
lemma Distinct.lookup?_eq_some_iff (h : catalog.Distinct) :
    catalog.lookup? name = some table ↔ table ∈ catalog.tables ∧ table.hasName name = true := by
  constructor
  · intro hfind
    exact ⟨List.mem_of_find?_eq_some hfind, hasName_of_lookup? hfind⟩
  · rintro ⟨hmem, hname⟩
    obtain ⟨other, hother⟩ : ∃ other, catalog.lookup? name = some other :=
      Option.isSome_iff_exists.mp (List.find?_isSome.mpr ⟨table, hmem, hname⟩)
    have hkey : key other = key table := by
      rw [hasName_iff.mp (hasName_of_lookup? hother), hasName_iff.mp hname]
    rw [hother, List.inj_on_of_nodup_map h (List.mem_of_find?_eq_some hother) hmem hkey]

lemma hasTable_iff : catalog.hasTable table.name = true ↔ key table ∈ catalog.tables.map key := by
  simp only [hasTable, lookup?, List.find?_isSome, hasName_iff, List.mem_map]
  rfl

lemma Distinct.concat (h : catalog.Distinct) (hnew : key table ∉ catalog.tables.map key) :
    Distinct ⟨catalog.tables ++ [table]⟩ := by
  rw [Distinct, List.map_append]
  exact List.Nodup.append h (List.nodup_singleton _) (List.disjoint_singleton.mpr hnew)

lemma Distinct.names_sorted (h : catalog.Distinct) : catalog.names.Pairwise (· < ·) := by
  have hnames : catalog.names.Nodup := by
    have hperm : catalog.names.Perm (catalog.tables.map Table.name) :=
      catalog.sorted_perm.map Table.name
    rw [hperm.nodup_iff]
    have hfold : ((catalog.tables.map Table.name).map Name.fold).Nodup := by
      rw [List.map_map]
      exact h
    exact hfold.of_map _
  have hle : catalog.names.Pairwise (· ≤ ·) := List.pairwise_map.mpr catalog.sorted_pairwise
  exact (hle.and hnames).imp fun h => lt_of_le_of_ne h.1 h.2

/-- A change of a catalog that anyone may ask for. -/
inductive Change where
  | add (table : Table)
  | remove (name : String)

/-- The catalog after a change, which is the same one when the change is refused. -/
def after (catalog : Catalog) : Change → Catalog
  | .add table => (catalog.add table).toOption.getD catalog
  | .remove name => catalog.remove name

/-- The catalog after a list of changes, the first one first. -/
def run (changes : List Change) : Catalog :=
  changes.foldl after empty

lemma run_concat (changes : List Change) (change : Change) :
    run (changes ++ [change]) = (run changes).after change := by
  simp [run]

lemma after_add (catalog : Catalog) (table : Table) :
    catalog.after (.add table) =
      if catalog.hasTable table.name then catalog else ⟨catalog.tables ++ [table]⟩ := by
  rw [after, add]
  split <;> rfl

lemma add_error_iff {e : CatalogError} :
    catalog.add table = .error e ↔
      e = .duplicateTable table.name ∧ ∃ other, catalog.lookup? table.name = some other := by
  rw [add, hasTable, ← Option.isSome_iff_exists]
  split
  · rename_i hthere
    simp [hthere, eq_comm]
  · rename_i hthere
    simp [hthere]

lemma Distinct.after (h : catalog.Distinct) (change : Change) : (catalog.after change).Distinct := by
  cases change with
  | add table =>
    rw [after_add]
    split
    · exact h
    · rename_i hthere
      exact h.concat (mt hasTable_iff.mpr hthere)
  | remove name => exact h.sublist (List.filter_sublist.map key)

variable {changes : List Change}

/-- A name that is taken in another spelling is refused, and free again once it is removed. -/
example : (run [.add { name := "orders" }, .add { name := "Items" }, .add { name := "ORDERS" },
    .remove "items", .add { name := "items" }]).names = ["items", "orders"] := by
  decide

end SelectBinding.Catalog
