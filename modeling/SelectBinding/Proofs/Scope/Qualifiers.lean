import SelectBinding.Proofs.Build.Internal
import SelectBinding.Proofs.Scope.Owners

/-!
Which table a qualifier calls.

A qualifier is looked for twice: among the names of the tables that are hidden by aliases, and among
the keys. Where every table is registered under its own key the two agree. A qualifier that is found
calls the only table with that key, one that several tables go by is refused, and one that no table
goes by is unknown; that a table is there and cannot be called does not happen.
-/

namespace SelectBinding

namespace Scope

variable {scope : Scope} {sources : List Source} {key : String} {p q : Nat}

/-- The table at `p` goes by the key. -/
def GoesBy (sources : List Source) (key : String) (p : Nat) : Prop :=
  ∃ source, sources[p]? = some source ∧ Name.agree source.key key = true

/-- **Keys.** The positions that a key stands for are those of the tables that go by it. -/
lemma mem_positionsFor_ofSources :
    p ∈ (ofSources sources).positionsFor key ↔ GoesBy sources key p := by
  rw [ofSources_eq, mem_positionsFor]
  simp only [List.getElem?_map, Option.map_eq_some_iff, exists_exists_and_eq_and, GoesBy]

lemma GoesBy.lt (h : GoesBy sources key p) : p < sources.length := by
  obtain ⟨source, hget, -⟩ := h
  exact (List.getElem?_eq_some_iff.mp hget).1

/-- Every table can be called where each of them is registered under its key. -/
lemma callable_ofSources (sources : List Source) : (ofSources sources).Callable := by
  intro source hsource name hname hhides
  obtain ⟨p, hp⟩ := List.mem_iff_getElem?.mp hsource
  have hkey : GoesBy sources name p := ⟨source, hp, key_agrees_of_not_hiding hname hhides⟩
  exact List.ne_nil_of_mem (mem_positionsFor_ofSources.mpr hkey)

/-! ### What a qualified name stands for -/

/-- What is found under a key is in the only table that goes by it. -/
lemma bindByKey_ofSources {name : String} {b : Binding}
    (h : (ofSources sources).bindByKey key name = .ok b) :
    ∃ (p : Nat) (source : Source), sources[p]? = some source ∧
      (∀ i, GoesBy sources key i ↔ i = p) ∧
      if name = "*" then b = .tableAsterisk p
      else ∃ field, source.table.IsFirst name field ∧ b = .field p field.name := by
  obtain ⟨p, hp, h⟩ := bindByKey_ok_iff.mp h
  have honly (i : Nat) : GoesBy sources key i ↔ i = p := by
    rw [← mem_positionsFor_ofSources, hp, List.mem_singleton]
  obtain ⟨source, hget, -⟩ := (honly p).mpr rfl
  refine ⟨p, source, hget, honly, ?_⟩
  split at h
  · next hasterisk => rwa [if_pos hasterisk]
  · next hasterisk =>
    obtain ⟨source', field, hget', hfield, rfl⟩ := bindFieldAt_ok_iff.mp h
    obtain rfl := Option.some.inj (hget.symm.trans hget')
    rw [if_neg hasterisk]
    exact ⟨field, Table.field?_eq_some_iff.mp hfield, rfl⟩

/-! ### What is refused -/

/-- A key that two tables go by is ambiguous. -/
lemma bindByKey_of_several (hp : p ∈ scope.positionsFor key) (hq : q ∈ scope.positionsFor key)
    (hne : p ≠ q) (name : String) :
    scope.bindByKey key name =
      .error (scope.repeatedKey key name (scope.positionsFor key)) := by
  rcases h : scope.positionsFor key with _ | ⟨a, _ | ⟨b, rest⟩⟩
  · simp [h] at hp
  · rw [h, List.mem_singleton] at hp hq
    exact absurd (hp.trans hq.symm) hne
  · simp only [bindByKey, h]

/-- A qualifier that two tables go by is ambiguous, unless aliases cover it. -/
lemma bindQualified_of_several (hp : GoesBy sources key p) (hq : GoesBy sources key q)
    (hne : p ≠ q) (name : String) :
    ∃ e, (ofSources sources).bindQualified key name = .error e ∧
      (e.kind = .ambiguity ∨ e.kind = .reference ∧
        e.message = "Could not access the table directly using its name") := by
  unfold bindQualified
  split
  · exact ⟨_, rfl, .inr ⟨rfl, rfl⟩⟩
  · rw [bindByKey_of_several (mem_positionsFor_ofSources.mpr hp)
      (mem_positionsFor_ofSources.mpr hq) hne name]
    exact ⟨_, rfl, .inl rfl⟩

/-- A key that no table goes by is unknown, unless a table is there that cannot be called. -/
lemma bindByKey_of_none (hnone : ∀ i, ¬ GoesBy sources key i) (name : String) :
    ∃ e, (ofSources sources).bindByKey key name = .error e ∧
      (e.kind = .reference ∨ e.kind = .implementation) := by
  have hpositions : (ofSources sources).positionsFor key = [] := by
    rw [List.eq_nil_iff_forall_not_mem]
    exact fun i hi => hnone i (mem_positionsFor_ofSources.mp hi)
  simp only [bindByKey, hpositions]
  split
  · exact ⟨_, rfl, .inr rfl⟩
  · exact ⟨_, rfl, .inl rfl⟩

/-- A qualifier that no table goes by is unknown. -/
lemma bindQualified_of_none (hnone : ∀ i, ¬ GoesBy sources key i) (name : String) :
    ∃ e, (ofSources sources).bindQualified key name = .error e ∧ e.kind = .reference := by
  have hforeseen : Foreseen ((ofSources sources).bindQualified key name) :=
    bindQualified_foreseen (callable_ofSources sources)
  unfold bindQualified at hforeseen ⊢
  split at hforeseen
  · exact ⟨_, rfl, rfl⟩
  · obtain ⟨e, he, hkind⟩ := bindByKey_of_none hnone name
    exact ⟨e, he, hkind.resolve_right (hforeseen e he)⟩

end Scope

namespace Fragments

variable {catalog : Catalog} {items : List Expr} {scope : Scope} {v : Variable}
  {key name : String}

/-- **Qualifiers.** Among tables without empty aliases, a qualified name that stands for something
stands for it in the only table that goes by the qualifier: for the table's fields where the name is
an asterisk, or else for the first field of that name. A qualifier that several tables go by is
refused as ambiguous or as covered by aliases, and one that no table goes by as unknown. No refusal
is an error of the program, and the positions that are looked at are those of tables. -/
theorem bind_qualified_sound (hscope : addTables catalog {} items = .ok scope)
    (haliases : NoEmptyAlias items) (hparts : v.parts = [key, name]) :
    (∀ b, scope.bind v = .ok b →
      ∃ (p : Nat) (source : Source), scope.sources[p]? = some source ∧
        (∀ i, Scope.GoesBy scope.sources key i ↔ i = p) ∧
        if name = "*" then b = .tableAsterisk p
        else ∃ field, source.table.IsFirst name field ∧ b = .field p field.name) ∧
    (∀ i j, i ≠ j → Scope.GoesBy scope.sources key i → Scope.GoesBy scope.sources key j →
      ∃ e, scope.bind v = .error e ∧ (e.kind = .ambiguity ∨ e.kind = .reference ∧
        e.message = "Could not access the table directly using its name")) ∧
    ((∀ i, ¬ Scope.GoesBy scope.sources key i) →
      ∃ e, scope.bind v = .error e ∧ e.kind = .reference) ∧
    (∀ e, scope.bind v = .error e → e.kind ≠ .implementation) ∧
    (∀ i ∈ scope.positionsFor key, i < scope.sources.length) := by
  have hown := addTables_eq_ofSources hscope haliases
  generalize scope.sources = sources at hown
  subst hown
  have hbind : (Scope.ofSources sources).bindParts v.parts =
      (Scope.ofSources sources).bindQualified key name := by
    rw [hparts, Scope.bindParts_qualified]
  refine ⟨fun b hb => ?_, fun i j hne hi hj => ?_, fun hnone => ?_, fun e he hkind => ?_,
    fun i hi => (Scope.mem_positionsFor_ofSources.mp hi).lt⟩
  · rw [Scope.bind_ok_iff, hbind, Scope.bindQualified_ok_iff] at hb
    exact Scope.bindByKey_ofSources hb.2
  · obtain ⟨e, he, hrest⟩ := Scope.bindQualified_of_several hi hj hne name
    exact ⟨_, Scope.bind_of_error (hbind.trans he), hrest⟩
  · obtain ⟨e, he, hkind⟩ := Scope.bindQualified_of_none hnone name
    exact ⟨_, Scope.bind_of_error (hbind.trans he), hkind⟩
  · obtain ⟨e', he', hkind'⟩ := Scope.bind_error_kind_iff.mp ⟨e, he, hkind⟩
    exact Scope.bindQualified_foreseen (Scope.callable_ofSources sources) e'
      (hbind.symm.trans he') hkind'

/-- The tables of `FROM entries e, accounts E, accounts`. -/
def repeatedItems : List Expr :=
  [.underName (.named "entries") (.named "e") false,
    .underName (.named "accounts") (.named "E") false, .named "accounts"]

/-- One key is given twice, in two spellings. The table that is there under its own name, too, can
be called by it. -/
theorem bind_qualified_repeated : ∃ scope, addTables ledger {} repeatedItems = .ok scope ∧
    (∃ e, scope.bind { parts := ["e", "id"] } = .error e ∧
      (e.kind = .ambiguity ∨ e.kind = .reference ∧
        e.message = "Could not access the table directly using its name")) ∧
    (∃ e, scope.bind { parts := ["x", "id"] } = .error e ∧ e.kind = .reference) ∧
    scope.bind { parts := ["ACCOUNTS", "OWNER"] } = .ok (.field 2 "owner") ∧
    ∃ (p : Nat) (source : Source), scope.sources[p]? = some source ∧
      (∀ i, Scope.GoesBy scope.sources "ACCOUNTS" i ↔ i = p) ∧
      ∃ field, source.table.IsFirst "OWNER" field ∧
        Binding.field 2 "owner" = .field p field.name := by
  have hscope : addTables ledger {} repeatedItems =
      .ok (.ofKeyed [(⟨entries, some "e"⟩, "e"), (⟨accounts, some "E"⟩, "E"),
        (⟨accounts, none⟩, "accounts")]) := by
    rfl
  have haliases : NoEmptyAlias repeatedItems := by
    unfold NoEmptyAlias
    decide
  have howner : (Scope.ofKeyed [(⟨entries, some "e"⟩, "e"), (⟨accounts, some "E"⟩, "E"),
      (⟨accounts, none⟩, "accounts")]).bind { parts := ["ACCOUNTS", "OWNER"] } =
        .ok (.field 2 "owner") := by
    decide
  refine ⟨_, hscope, ?_, ?_, howner, ?_⟩
  · exact (bind_qualified_sound hscope haliases rfl).2.1 0 1 (by decide)
      ⟨_, rfl, by decide⟩ ⟨_, rfl, by decide⟩
  · refine (bind_qualified_sound hscope haliases rfl).2.2.1 ?_
    rintro i ⟨source, hget, hkey⟩
    have hall : ∀ s ∈ [(⟨entries, some "e"⟩ : Source), ⟨accounts, some "E"⟩, ⟨accounts, none⟩],
        Name.agree s.key "x" = false := by decide
    exact absurd hkey (by simp [hall source (List.mem_of_getElem? hget)])
  · simpa using
      (bind_qualified_sound (v := ⟨["ACCOUNTS", "OWNER"], none, none⟩) hscope haliases rfl).1 _
        howner

end Fragments

end SelectBinding
