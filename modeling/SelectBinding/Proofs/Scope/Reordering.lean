import Mathlib.Data.List.Nodup
import Mathlib.Logic.Equiv.Basic
import SelectBinding.Proofs.Alike
import SelectBinding.Proofs.Scope.Calling

/-!
What names stand for when the tables after `FROM` change places.

A bare name is searched for table by table, and a key may stand for several tables, but neither
search depends on the order of the tables: whether a name stands for something, and the error when
it does not, come from the tables that there are. A qualified name keeps the table that it stands
for, wherever that table goes. A bare name may come to stand for another use of the same table.
-/

namespace SelectBinding

/-! ### Lists in another order -/

/-- The second list is the first one in another order: the member at `p` has moved to `move p`. -/
def Rearranged {α : Type} (move : Equiv.Perm Nat) (l l' : List α) : Prop :=
  ∀ p, l'[move p]? = l[p]?

namespace Rearranged

variable {α β : Type} {move : Equiv.Perm Nat} {l l' : List α}

protected lemma symm (h : Rearranged move l l') : Rearranged move.symm l' l := by
  intro p
  have hp := h (move.symm p)
  rw [Equiv.apply_symm_apply] at hp
  exact hp.symm

protected lemma map (h : Rearranged move l l') (f : α → β) :
    Rearranged move (l.map f) (l'.map f) := by
  intro p
  rw [List.getElem?_map, List.getElem?_map, h p]

lemma mem_iff (h : Rearranged move l l') {a : α} : a ∈ l' ↔ a ∈ l := by
  simp only [List.mem_iff_getElem?]
  constructor
  · rintro ⟨p, hp⟩
    exact ⟨move.symm p, (h.symm p).trans hp⟩
  · rintro ⟨p, hp⟩
    exact ⟨move p, (h p).trans hp⟩

end Rearranged

namespace Scope

/-! ### Names without a qualifier -/

/-- The error about a name that no table has a field of. -/
def unknownField (name : String) : Diagnostic :=
  { kind := .reference, message := "Field not found",
    details := some ("Table containing \"" ++ name ++ "\" field not found") }

/-- The error says that a name stands for fields of different tables. -/
def SaysAmbiguous (e : Diagnostic) : Prop :=
  ∃ details, e = { kind := .ambiguity, message := "Ambiguous field name", details }

/-- Two of the tables, which are not the same one, have a field of the name. -/
def Contested (sources : List Source) (name : String) : Prop :=
  ∃ s ∈ sources, ∃ s' ∈ sources, (s.table.field? name).isSome ∧ (s'.table.field? name).isSome ∧
    s.table.same s'.table = false

lemma bindFieldFrom_found_error {name : String} {first : Nat} {table : Table} {field : Field}
    {sources : List Source} {position : Nat} {e : Diagnostic}
    (h : bindFieldFrom name (some (first, table, field)) position sources = .error e) :
    SaysAmbiguous e ∧
      ∃ s ∈ sources, (s.table.field? name).isSome ∧ table.same s.table = false := by
  induction sources generalizing position with
  | nil => simp [bindFieldFrom] at h
  | cons s rest ih =>
    cases hs : s.table.field? name with
    | none =>
      simp only [bindFieldFrom, hs] at h
      obtain ⟨he, s', hs', hrest⟩ := ih h
      exact ⟨he, s', List.mem_cons_of_mem _ hs', hrest⟩
    | some other =>
      cases hsame : table.same s.table with
      | true =>
        simp only [bindFieldFrom, hs, hsame, if_true] at h
        obtain ⟨he, s', hs', hrest⟩ := ih h
        exact ⟨he, s', List.mem_cons_of_mem _ hs', hrest⟩
      | false =>
        simp only [bindFieldFrom, hs, hsame, Bool.false_eq_true, if_false] at h
        exact ⟨⟨_, (Except.error.inj h).symm⟩, s, by simp, by simp [hs], hsame⟩

lemma bindFieldFrom_none_error {name : String} {sources : List Source} {position : Nat}
    {e : Diagnostic} (h : bindFieldFrom name none position sources = .error e) :
    ((∀ s ∈ sources, s.table.field? name = none) ∧ e = unknownField name) ∨
      (Contested sources name ∧ SaysAmbiguous e) := by
  induction sources generalizing position with
  | nil => exact .inl ⟨by simp, (Except.error.inj h).symm⟩
  | cons s rest ih =>
    cases hs : s.table.field? name with
    | none =>
      simp only [bindFieldFrom, hs] at h
      rcases ih h with ⟨hnone, he⟩ | ⟨⟨s₁, h₁, s₂, h₂, hrest⟩, he⟩
      · exact .inl ⟨List.forall_mem_cons.mpr ⟨hs, hnone⟩, he⟩
      · exact .inr ⟨⟨s₁, List.mem_cons_of_mem _ h₁, s₂, List.mem_cons_of_mem _ h₂, hrest⟩, he⟩
    | some field =>
      simp only [bindFieldFrom, hs] at h
      obtain ⟨he, s', hs', hfield, hdiffer⟩ := bindFieldFrom_found_error h
      exact .inr ⟨⟨s, by simp, s', List.mem_cons_of_mem _ hs', by simp [hs], hfield, hdiffer⟩, he⟩

/-- A name that stands for something has an owner, and no tables contest it. -/
lemma FirstOwner.not_contested {sources : List Source} {name : String} {p : Nat} {source : Source}
    {field : Field} (h : FirstOwner sources name p source field) : ¬ Contested sources name := by
  rintro ⟨s, hs, s', hs', hfield, hfield', hdiffer⟩
  have hsame := Table.same_trans (Table.same_symm (h.only s hs hfield)) (h.only s' hs' hfield')
  simp [hsame] at hdiffer

/-- **Bare names.** Why a name stands for nothing is a matter of the tables that there are: none has
such a field, or two that are not the same have one. -/
lemma bindField_error {scope : Scope} {name : String} {e : Diagnostic}
    (h : scope.bindField name = .error e) :
    ((∀ s ∈ scope.sources, s.table.field? name = none) ∧ e = unknownField name) ∨
      (Contested scope.sources name ∧ SaysAmbiguous e) :=
  bindFieldFrom_none_error h

/-- The name stands for the same field of the same table, whichever use of the table it is, or for
the fields of all tables. -/
def SameField (sources sources' : List Source) : Binding → Binding → Prop
  | .field p name, .field p' name' =>
    name' = name ∧ ∃ source source', sources[p]? = some source ∧ sources'[p']? = some source' ∧
      source'.table = source.table
  | .allTables, .allTables => True
  | _, _ => False

/-- Tables that are the same one are described alike. -/
def OneTableEach (sources : List Source) : Prop :=
  ∀ s ∈ sources, ∀ s' ∈ sources, s.table.same s'.table = true → s'.table = s.table

variable {scope scope' : Scope} {name : String}

/-- What can be bound among some tables can be bound among the same tables in another order. -/
lemma bindField_ne_error (hmem : ∀ s, s ∈ scope'.sources ↔ s ∈ scope.sources) {b : Binding}
    (h : scope.bindField name = .ok b) (e : Diagnostic) : scope'.bindField name ≠ .error e := by
  intro he
  obtain ⟨p, source, field, howner, -⟩ := bindField_ok_iff.mp h
  rcases bindField_error he with ⟨hnone, -⟩ | ⟨⟨s, hs, s', hs', hcontested⟩, -⟩
  · have := hnone source ((hmem _).mpr (List.mem_of_getElem? howner.at_))
    simp [howner.has] at this
  · exact howner.not_contested ⟨s, (hmem s).mp hs, s', (hmem s').mp hs', hcontested⟩

lemma bindField_alike (hmem : ∀ s, s ∈ scope'.sources ↔ s ∈ scope.sources)
    (hone : OneTableEach scope.sources) :
    Except.Alike Diagnostic.SameMessage (SameField scope.sources scope'.sources)
      (scope.bindField name) (scope'.bindField name) := by
  cases h : scope.bindField name with
  | ok b =>
    cases h' : scope'.bindField name with
    | error e => exact absurd h' (bindField_ne_error hmem h e)
    | ok b' =>
      obtain ⟨p, source, field, howner, rfl⟩ := bindField_ok_iff.mp h
      obtain ⟨p', source', field', howner', rfl⟩ := bindField_ok_iff.mp h'
      have hsource' : source' ∈ scope.sources :=
        (hmem _).mp (List.mem_of_getElem? howner'.at_)
      have htable : source'.table = source.table :=
        hone source (List.mem_of_getElem? howner.at_) source' hsource'
          (howner.only source' hsource' (by simp [howner'.has]))
      have hfield := howner'.has
      rw [htable, howner.has] at hfield
      obtain rfl := Option.some.inj hfield
      exact .ok ⟨rfl, source, source', howner.at_, howner'.at_, htable⟩
  | error e =>
    cases h' : scope'.bindField name with
    | ok b' => exact absurd h (bindField_ne_error (fun s => (hmem s).symm) h' e)
    | error e' =>
      refine .error ?_
      rcases bindField_error h with ⟨hnone, rfl⟩ | ⟨⟨s, hs, s₁, hs₁, hfield, -⟩, details, rfl⟩
      · rcases bindField_error h' with ⟨-, rfl⟩ | ⟨⟨s, hs, s₁, -, hfield, -⟩, -⟩
        · rfl
        · simp [hnone s ((hmem s).mp hs)] at hfield
      · rcases bindField_error h' with ⟨hnone, -⟩ | ⟨-, details', rfl⟩
        · simp [hnone s ((hmem s).mpr hs)] at hfield
        · rfl

/-! ### Names after a qualifier -/

variable {tables tables' : List (Source × String)} {move : Equiv.Perm Nat} {key : String}

/-- Whether aliases hide a name does not depend on the order of the tables. -/
lemma coveringAlias?_isSome_congr (hmem : ∀ s, s ∈ scope'.sources ↔ s ∈ scope.sources) :
    (scope'.coveringAlias? key).isSome = (scope.coveringAlias? key).isSome := by
  rw [Bool.eq_iff_iff, coveringAlias?_isSome_iff, coveringAlias?_isSome_iff]
  simp only [hmem]

/-- The positions that a key stands for move with their tables. -/
lemma positionsFor_rearranged (h : Rearranged move tables tables') (key : String) :
    ((ofKeyed tables').positionsFor key).Perm (((ofKeyed tables).positionsFor key).map move) := by
  refine (List.perm_ext_iff_of_nodup (positionsFor_nodup tables' key)
    ((positionsFor_nodup tables key).map move.injective)).mpr fun p => ?_
  rw [mem_positionsFor, List.mem_map]
  constructor
  · rintro ⟨entry, hget, hkey⟩
    refine ⟨move.symm p, mem_positionsFor.mpr ⟨entry, ?_, hkey⟩, move.apply_symm_apply p⟩
    exact (h.symm p).trans hget
  · rintro ⟨p, hp, rfl⟩
    obtain ⟨entry, hget, hkey⟩ := mem_positionsFor.mp hp
    exact ⟨entry, (h p).trans hget, hkey⟩

/-- The name stands for the same thing, its table having moved. -/
def Moves (move : Equiv.Perm Nat) (b b' : Binding) : Prop :=
  b' = b.mapPosition move

lemma bindFieldAt_alike (h : Rearranged move scope.sources scope'.sources) (key name : String)
    (p : Nat) :
    Except.Alike Diagnostic.SameMessage (Moves move) (scope.bindFieldAt key name p)
      (scope'.bindFieldAt key name (move p)) := by
  unfold bindFieldAt
  rw [h p]
  cases scope.sources[p]?.bind fun source => source.table.field? name with
  | none => exact .error rfl
  | some field => exact .ok rfl

lemma bindByKey_alike (h : Rearranged move tables tables') (key name : String) :
    Except.Alike Diagnostic.SameMessage (Moves move) ((ofKeyed tables).bindByKey key name)
      ((ofKeyed tables').bindByKey key name) := by
  have hperm := positionsFor_rearranged h key
  have hsources : Rearranged move (ofKeyed tables).sources (ofKeyed tables').sources :=
    h.map Prod.fst
  unfold bindByKey
  rcases hp : (ofKeyed tables).positionsFor key with _ | ⟨p, _ | ⟨p₁, rest⟩⟩
  · rw [hp, List.map_nil, List.perm_nil] at hperm
    have hany : ((ofKeyed tables').sources.any fun source => source.table.hasName key) =
        (ofKeyed tables).sources.any fun source => source.table.hasName key := by
      rw [Bool.eq_iff_iff, List.any_eq_true, List.any_eq_true]
      simp only [hsources.mem_iff]
    simp only [hperm, hany]
    split <;> exact .error rfl
  · rw [hp, List.map_singleton, List.perm_singleton] at hperm
    simp only [hperm]
    split
    · exact .ok rfl
    · exact bindFieldAt_alike hsources key name p
  · -- More than one table goes by the key, in either order.
    have hlength := hperm.length_eq
    rw [hp] at hlength
    rcases hp' : (ofKeyed tables').positionsFor key with _ | ⟨p', _ | ⟨p₁', rest'⟩⟩
    · simp [hp'] at hlength
    · simp [hp'] at hlength
    · exact .error rfl

lemma bindQualified_alike (h : Rearranged move tables tables') (key name : String) :
    Except.Alike Diagnostic.SameMessage (Moves move) ((ofKeyed tables).bindQualified key name)
      ((ofKeyed tables').bindQualified key name) := by
  have hsources : Rearranged move (ofKeyed tables).sources (ofKeyed tables').sources :=
    h.map Prod.fst
  have hcovering : ((ofKeyed tables').coveringAlias? key).isSome =
      ((ofKeyed tables).coveringAlias? key).isSome :=
    coveringAlias?_isSome_congr fun _ => hsources.mem_iff
  unfold bindQualified
  cases hc : (ofKeyed tables).coveringAlias? key with
  | none =>
    rw [hc, Option.isSome_none, Option.isSome_eq_false_iff, Option.isNone_iff_eq_none] at hcovering
    simp only [hcovering]
    exact bindByKey_alike h key name
  | some aliasName =>
    rw [hc, Option.isSome_some] at hcovering
    obtain ⟨aliasName', hc'⟩ := Option.isSome_iff_exists.mp hcovering
    simp only [hc']
    exact .error rfl

/-! ### Names of one part or two -/

/-- Errors that are the same but for their details stay so when they are placed. -/
lemma bind_alike {R : Binding → Binding → Prop} {v : Variable}
    (h : Except.Alike Diagnostic.SameMessage R (scope.bindParts v.parts)
      (scope'.bindParts v.parts)) :
    Except.Alike Diagnostic.SameMessage R (scope.bind v) (scope'.bind v) := by
  refine .mapError (h.mono (fun e e' he => ?_) fun _ _ => id)
  exact congrArg (fun e : Diagnostic => e.located v.name v.position) he

end Scope

namespace Fragments

open Scope

variable {catalog : Catalog} {items items' : List Expr} {tables : List (Source × String)}
  {move : Equiv.Perm Nat}

/-! ### Tables that are looked up -/

/-- The tables of a catalog that are the same one are one table. -/
lemma oneTableEach_of_keyedTables (h : keyedTables catalog items = .ok tables) :
    OneTableEach (tables.map Prod.fst) := by
  -- Each table is the one that the catalog finds under its own name.
  have hlookup : ∀ s ∈ tables.map Prod.fst, catalog.lookup? s.table.name = some s.table := by
    intro s hs
    obtain ⟨entry, hentry, rfl⟩ := List.mem_map.mp hs
    obtain ⟨item, -, hitem⟩ := keyedTables_mem h hentry
    obtain ⟨v, written, table, -, htable, rfl⟩ := source_ok_iff.mp hitem
    exact (Catalog.lookup?_congr (Catalog.hasName_of_lookup? htable) catalog).trans htable
  intro s hs s' hs' hsame
  have hfound := hlookup s' hs'
  rw [← Catalog.lookup?_congr hsame catalog, hlookup s hs] at hfound
  exact (Option.some.inj hfound).symm

lemma getElem?_of_keyedTables (h : keyedTables catalog items = .ok tables) (p : Nat) :
    tables[p]? = items[p]?.bind fun item => (source catalog item).toOption := by
  have hitems := Except.mapM_ok_iff.mp h
  clear h
  induction hitems generalizing p with
  | nil => simp
  | @cons item entry _ _ hitem _ ih =>
    cases p with
    | zero => simp [hitem, Except.toOption]
    | succ p => simpa using ih p

/-- Items that change places stand for tables that change places. -/
lemma keyedTables_rearranged (hitems : Rearranged move items items')
    (h : keyedTables catalog items = .ok tables) :
    ∃ tables', keyedTables catalog items' = .ok tables' ∧ Rearranged move tables tables' := by
  have hall := Except.exists_mapM_ok.mp ⟨tables, h⟩
  obtain ⟨tables', h'⟩ : ∃ tables', keyedTables catalog items' = .ok tables' :=
    Except.exists_mapM_ok.mpr fun item hitem => hall item (hitems.mem_iff.mp hitem)
  refine ⟨tables', h', fun p => ?_⟩
  rw [getElem?_of_keyedTables h', getElem?_of_keyedTables h, hitems p]

/-- **Order.** When the items after `FROM` change places, they still stand for tables, and a name of
one or two parts stands for nothing in both orders, with the same error but for its details, or for
something in both. A qualified name then stands for the same thing at the place to which its table
has moved, and a bare one for the same field of the same table. -/
theorem bind_rearranged {scope : Scope} (hitems : Rearranged move items items')
    (hscope : addTables catalog {} items = .ok scope) :
    ∃ scope', addTables catalog {} items' = .ok scope' ∧
      (∀ (v : Variable) (key name : String), v.parts = [key, name] →
        Except.Alike Diagnostic.SameMessage (Moves move) (scope.bind v) (scope'.bind v)) ∧
      ∀ (v : Variable) (name : String), v.parts = [name] →
        Except.Alike Diagnostic.SameMessage (SameField scope.sources scope'.sources)
          (scope.bind v) (scope'.bind v) := by
  obtain ⟨tables, hkeyed, rfl⟩ := addTables_ok_iff.mp hscope
  obtain ⟨tables', hkeyed', hmove⟩ := keyedTables_rearranged hitems hkeyed
  refine ⟨.ofKeyed tables', addTables_ok_iff.mpr ⟨tables', hkeyed', rfl⟩,
    fun v key name hv => ?_, fun v name hv => ?_⟩
  · refine bind_alike ?_
    rw [hv, bindParts_qualified, bindParts_qualified]
    exact bindQualified_alike hmove key name
  · refine bind_alike ?_
    rw [hv]
    by_cases hname : name = "*"
    · subst hname
      exact .ok trivial
    · rw [bindParts_bare hname, bindParts_bare hname]
      exact bindField_alike (fun _ => (hmove.map Prod.fst).mem_iff)
        (oneTableEach_of_keyedTables hkeyed)

/-- The tables of `FROM accounts a, entries, accounts`. -/
def twiceItems : List Expr :=
  [.underName (.named "accounts") (.named "a") false, .named "entries", .named "accounts"]

/-- The tables of `FROM accounts, entries, accounts a`. -/
def turnedItems : List Expr :=
  [.named "accounts", .named "entries", .underName (.named "accounts") (.named "a") false]

/-- The two uses of a table change places: its name moves, and a field without a qualifier goes to
the use that stands first. -/
theorem bind_rearranged_ledger : Rearranged (Equiv.swap 0 2) twiceItems turnedItems ∧
    ∃ scope scope', addTables ledger {} twiceItems = .ok scope ∧
      addTables ledger {} turnedItems = .ok scope' ∧
      scope.bind { parts := ["Accounts", "id"] } = .ok (.field 2 "Id") ∧
      Except.Alike Diagnostic.SameMessage (Moves (Equiv.swap 0 2))
        (scope.bind { parts := ["Accounts", "id"] }) (scope'.bind { parts := ["Accounts", "id"] }) ∧
      scope.bind { parts := ["owner"] } = .ok (.field 0 "owner") ∧
      Except.Alike Diagnostic.SameMessage (SameField scope.sources scope'.sources)
        (scope.bind { parts := ["owner"] }) (scope'.bind { parts := ["owner"] }) := by
  have hitems : Rearranged (Equiv.swap 0 2) twiceItems turnedItems := by
    intro p
    rcases p with _ | _ | _ | p
    · rfl
    · rfl
    · rfl
    · rw [Equiv.swap_apply_of_ne_of_ne (by omega) (by omega)]
      rfl
  have hscope : addTables ledger {} twiceItems =
      .ok (.ofKeyed [(⟨accounts, some "a"⟩, "a"), (⟨entries, none⟩, "entries"),
        (⟨accounts, none⟩, "accounts")]) := by
    rfl
  obtain ⟨scope', hscope', hqualified, hbare⟩ := bind_rearranged hitems hscope
  exact ⟨hitems, _, scope', hscope, hscope', by decide, hqualified _ _ _ rfl, by decide,
    hbare _ _ rfl⟩

end Fragments

end SelectBinding
