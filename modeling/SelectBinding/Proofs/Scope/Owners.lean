import SelectBinding.Proofs.Scope.Reordering

/-!
Whose field a bare name is.

The search goes through the tables once. It keeps the first one that has the field and compares
only that one with the tables after it, which is enough: being the same table is an equivalence. So
a name is unknown when no table has such a field, ambiguous when two tables that are not the same
one have it, wherever they stand, and else it belongs to the first table that has it.
-/

namespace SelectBinding

/-! ### Fields of a table -/

namespace Table

variable {table : Table} {name : String} {field : Field}

/-- The table has a field called `name`. -/
def Has (table : Table) (name : String) : Prop :=
  ∃ field ∈ table.fields, Name.agree field.name name = true

/-- The field is the first one of the table that is called `name`. -/
def IsFirst (table : Table) (name : String) (field : Field) : Prop :=
  ∃ before after, table.fields = before ++ field :: after ∧ Name.agree field.name name = true ∧
    ∀ other ∈ before, Name.agree other.name name = false

lemma field?_isSome_iff : (table.field? name).isSome = true ↔ table.Has name := by
  simp [field?, Has, List.find?_isSome]

lemma field?_eq_none_iff : table.field? name = none ↔ ¬ table.Has name := by
  rw [← field?_isSome_iff, Option.not_isSome_iff_eq_none]

lemma field?_eq_some_iff : table.field? name = some field ↔ table.IsFirst name field := by
  simp only [field?, IsFirst, List.find?_eq_some_iff_append, Bool.not_eq_true']
  constructor
  · rintro ⟨hname, before, after, hfields, hbefore⟩
    exact ⟨before, after, hfields, hname, hbefore⟩
  · rintro ⟨before, after, hfields, hname, hbefore⟩
    exact ⟨hname, before, after, hfields, hbefore⟩

end Table

namespace Scope

variable {scope : Scope} {v : Variable} {name : String}

/-! ### Errors by their kinds -/

/-- An error is placed at its variable. -/
lemma bind_of_error {e : Diagnostic} (h : scope.bindParts v.parts = .error e) :
    scope.bind v = .error (e.located v.name v.position) := by
  rw [bind, h]
  rfl

/-- It keeps its kind. -/
lemma bind_error_kind_iff {kind : ErrorKind} :
    (∃ e, scope.bind v = .error e ∧ e.kind = kind) ↔
      ∃ e, scope.bindParts v.parts = .error e ∧ e.kind = kind := by
  cases h : scope.bindParts v.parts with
  | ok b => simp [bind_ok_iff.mpr h]
  | error e => simp [bind_of_error h, Diagnostic.located]

/-- A name is unknown when no table has a field of it. -/
lemma bindField_unknown_iff :
    (∃ e, scope.bindField name = .error e ∧ e.kind = .reference) ↔
      ∀ source ∈ scope.sources, source.table.field? name = none := by
  constructor
  · rintro ⟨e, he, hkind⟩
    rcases bindField_error he with ⟨hnone, -⟩ | ⟨-, details, rfl⟩
    · exact hnone
    · cases hkind
  · intro hnone
    cases h : scope.bindField name with
    | ok b =>
      obtain ⟨p, source, field, howner, -⟩ := bindField_ok_iff.mp h
      have := hnone source (List.mem_of_getElem? howner.at_)
      simp [howner.has] at this
    | error e =>
      rcases bindField_error h with ⟨-, rfl⟩ | ⟨⟨s, hs, _, _, hfield, -⟩, -⟩
      · exact ⟨_, rfl, rfl⟩
      · simp [hnone s hs] at hfield

/-- A name is ambiguous when tables contest it. -/
lemma bindField_ambiguous_iff :
    (∃ e, scope.bindField name = .error e ∧ e.kind = .ambiguity) ↔
      Contested scope.sources name := by
  constructor
  · rintro ⟨e, he, hkind⟩
    rcases bindField_error he with ⟨-, rfl⟩ | ⟨hcontested, -⟩
    · cases hkind
    · exact hcontested
  · intro hcontested
    cases h : scope.bindField name with
    | ok b =>
      obtain ⟨p, source, field, howner, -⟩ := bindField_ok_iff.mp h
      exact absurd hcontested howner.not_contested
    | error e =>
      rcases bindField_error h with ⟨hnone, -⟩ | ⟨-, details, rfl⟩
      · obtain ⟨s, hs, _, _, hfield, -⟩ := hcontested
        simp [hnone s hs] at hfield
      · exact ⟨_, rfl, rfl⟩

/-- A name that some table has, and that no tables contest, has an owner. -/
lemma exists_owner (hhas : ∃ source ∈ scope.sources, source.table.Has name)
    (hfree : ¬ Contested scope.sources name) :
    ∃ p source field, FirstOwner scope.sources name p source field ∧
      scope.bindField name = .ok (.field p field.name) := by
  cases h : scope.bindField name with
  | ok b =>
    obtain ⟨p, source, field, howner, rfl⟩ := bindField_ok_iff.mp h
    exact ⟨p, source, field, howner, rfl⟩
  | error e =>
    rcases bindField_error h with ⟨hnone, -⟩ | ⟨hcontested, -⟩
    · obtain ⟨s, hs, hname⟩ := hhas
      exact absurd hname (Table.field?_eq_none_iff.mp (hnone s hs))
    · exact absurd hcontested hfree

/-- Tables contest a name when it is a field of two that have different names. -/
lemma contested_iff {sources : List Source} :
    Contested sources name ↔ ∃ (p p' : Nat) (source source' : Source),
      sources[p]? = some source ∧ sources[p']? = some source' ∧ source.table.Has name ∧
        source'.table.Has name ∧ Name.fold source.table.name ≠ Name.fold source'.table.name := by
  have hdiffer (s s' : Source) :
      s.table.same s'.table = false ↔ Name.fold s.table.name ≠ Name.fold s'.table.name := by
    rw [← Bool.not_eq_true, Table.same_iff]
  simp only [Contested, Table.field?_isSome_iff, hdiffer, List.mem_iff_getElem?]
  constructor
  · rintro ⟨s, ⟨p, hp⟩, s', ⟨p', hp'⟩, hrest⟩
    exact ⟨p, p', s, s', hp, hp', hrest⟩
  · rintro ⟨p, p', s, s', hp, hp', hrest⟩
    exact ⟨s, ⟨p, hp⟩, s', ⟨p', hp'⟩, hrest⟩

/-- **Bare names.** A name without a qualifier, other than an asterisk, is refused as unknown
exactly when no table has a field of it, and as ambiguous exactly when tables with different names
have one. Otherwise it stands for the first field of the name in the first table that has one, and
wherever there is a table that has one, it is this table. -/
theorem bind_bare_classified (hparts : v.parts = [name]) (hname : name ≠ "*") :
    ((∃ e, scope.bind v = .error e ∧ e.kind = .reference) ↔
      ∀ source ∈ scope.sources, ¬ source.table.Has name) ∧
    ((∃ e, scope.bind v = .error e ∧ e.kind = .ambiguity) ↔
      ∃ (p p' : Nat) (source source' : Source),
        scope.sources[p]? = some source ∧ scope.sources[p']? = some source' ∧
          source.table.Has name ∧ source'.table.Has name ∧
          Name.fold source.table.name ≠ Name.fold source'.table.name) ∧
    ((¬ ∃ e, scope.bind v = .error e ∧ (e.kind = .reference ∨ e.kind = .ambiguity)) →
      ∃ (p : Nat) (source : Source) (field : Field), scope.bind v = .ok (.field p field.name) ∧
        scope.sources[p]? = some source ∧ source.table.IsFirst name field ∧
        ∀ (p' : Nat) (source' : Source), scope.sources[p']? = some source' →
          source'.table.Has name →
            p ≤ p' ∧ Name.fold source'.table.name = Name.fold source.table.name) := by
  have hbind : scope.bindParts v.parts = scope.bindField name := by
    rw [hparts, bindParts_bare hname]
  have hunknown : (∃ e, scope.bind v = .error e ∧ e.kind = .reference) ↔
      ∀ source ∈ scope.sources, ¬ source.table.Has name := by
    simp only [bind_error_kind_iff, hbind, bindField_unknown_iff, Table.field?_eq_none_iff]
  have hambiguous : (∃ e, scope.bind v = .error e ∧ e.kind = .ambiguity) ↔
      Contested scope.sources name := by
    rw [bind_error_kind_iff, hbind, bindField_ambiguous_iff]
  refine ⟨hunknown, hambiguous.trans contested_iff, fun hfound => ?_⟩
  simp only [and_or_left, exists_or, not_or, hunknown, hambiguous] at hfound
  obtain ⟨hhas, hfree⟩ := hfound
  obtain ⟨p, source, field, howner, hok⟩ := exists_owner (by simpa using hhas) hfree
  refine ⟨p, source, field, bind_ok_iff.mpr (hbind.trans hok), howner.at_,
    Table.field?_eq_some_iff.mp howner.has, fun p' source' hget hhas' => ⟨?_, ?_⟩⟩
  · by_contra hlt
    exact Table.field?_eq_none_iff.mp (howner.before p' (by omega) source' hget) hhas'
  · have hsame := howner.only source' (List.mem_of_getElem? hget)
      (Table.field?_isSome_iff.mpr hhas')
    exact (Table.same_iff.mp hsame).symm

/-- The tables of `FROM accounts a, entries, accounts`. -/
def accountsTwice : Scope :=
  .ofSources [⟨Fragments.accounts, some "a"⟩, ⟨Fragments.entries, none⟩, ⟨Fragments.accounts, none⟩]

/-- Both tables have an id. The owner is a field of one table, which is used twice. -/
theorem bind_bare_twice :
    (∃ e, accountsTwice.bind { parts := ["ID"] } = .error e ∧ e.kind = .ambiguity) ∧
      ∃ (p : Nat) (source : Source) (field : Field),
        accountsTwice.bind { parts := ["OWNER"] } = .ok (.field p field.name) ∧
          accountsTwice.sources[p]? = some source ∧ source.table.IsFirst "OWNER" field ∧
          ∀ (p' : Nat) (source' : Source), accountsTwice.sources[p']? = some source' →
            source'.table.Has "OWNER" →
              p ≤ p' ∧ Name.fold source'.table.name = Name.fold source.table.name := by
  have hid (table : Table) (h : (table.field? "ID").isSome = true) : table.Has "ID" :=
    Table.field?_isSome_iff.mp h
  refine ⟨(bind_bare_classified rfl (by decide)).2.1.mpr
      ⟨0, 1, _, _, rfl, rfl, hid _ (by decide), hid _ (by decide), by decide⟩,
    (bind_bare_classified rfl (by decide)).2.2 ?_⟩
  rintro ⟨e, he, -⟩
  have hok : accountsTwice.bind { parts := ["OWNER"] } = .ok (.field 0 "owner") := by decide
  simp [hok] at he

end Scope

end SelectBinding
