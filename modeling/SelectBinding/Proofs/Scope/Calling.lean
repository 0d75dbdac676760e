import SelectBinding.Proofs.Build.WellFormed

/-!
Calling a table by its key.

A key that only one table goes by does not always call that table. A name that some table has and
that every use of this table hides behind an alias is refused before any key is looked up, also
where the name is the alias of another table. That is the only thing that stands in the way.
-/

namespace SelectBinding

namespace Scope

/-! ### Names hidden by aliases -/

lemma hidingAlias?_isSome {table : String} {source : Source} :
    (hidingAlias? table source).isSome = true ↔
      ∃ aliasName, source.aliasName = some aliasName ∧ Name.agree aliasName table = false := by
  simp [hidingAlias?, Option.any_eq_true]

/-- A name is hidden exactly when tables have it and each of them goes by another alias. -/
lemma coveringAlias?_isSome_iff {scope : Scope} {table : String} :
    (scope.coveringAlias? table).isSome = true ↔
      (∃ source ∈ scope.sources, source.table.hasName table = true) ∧
        ∀ source ∈ scope.sources, source.table.hasName table = true →
          (hidingAlias? table source).isSome = true := by
  unfold coveringAlias?
  simp only
  split
  · rename_i hall
    simp only [List.all_filter, List.all_eq_true, Bool.or_eq_true, Bool.not_eq_true'] at hall
    have hhides : ∀ source ∈ scope.sources, source.table.hasName table = true →
        (hidingAlias? table source).isSome = true := by
      intro source hsource hname
      simpa [hname] using hall source hsource
    refine ⟨fun h => ⟨?_, hhides⟩, fun h => ?_⟩
    · obtain ⟨aliasName, h⟩ := Option.isSome_iff_exists.mp h
      obtain ⟨last, hlast, -⟩ := Option.bind_eq_some_iff.mp h
      have hmem := List.mem_of_getLast? hlast
      exact ⟨last, List.mem_of_mem_filter hmem, (List.mem_filter.mp hmem).2⟩
    · obtain ⟨⟨source, hsource, hname⟩, -⟩ := h
      have hmem : source ∈ scope.sources.filter (·.table.hasName table) :=
        List.mem_filter.mpr ⟨hsource, hname⟩
      have hlast := List.getLast?_eq_some_getLast (List.ne_nil_of_mem hmem)
      have hmem := List.mem_filter.mp (List.mem_of_getLast? hlast)
      rw [hlast, Option.bind_some]
      exact hhides _ hmem.1 hmem.2
  · rename_i hall
    simp only [List.all_filter, List.all_eq_true, Bool.or_eq_true, Bool.not_eq_true', not_forall,
      not_or] at hall
    obtain ⟨source, hsource, hname, hhides⟩ := hall
    simp only [Option.isSome_none, Bool.false_eq_true, false_iff, not_and, not_forall]
    exact fun _ => ⟨source, hsource, by simpa using hname, by simpa using hhides⟩

/-- A table whose name is not hidden at a use of it goes by that name there. -/
lemma key_agrees_of_not_hiding {table : String} {source : Source}
    (hname : source.table.hasName table = true) (h : (hidingAlias? table source).isSome = false) :
    Name.agree source.key table = true := by
  obtain ⟨t, aliasName⟩ := source
  cases aliasName with
  | none => exact hname
  | some aliasName => simpa [hidingAlias?, Source.key] using h

/-- The key that only the table at `p` goes by is hidden exactly when other tables have it as their
name and the table at `p` does not. -/
lemma coveringAlias?_eq_none_iff_of_unique {scope : Scope} {key : String} {p : Nat}
    {source : Source} (hsource : scope.sources[p]? = some source)
    (hkey : Name.agree source.key key = true)
    (hunique : ∀ (i : Nat) (other : Source), scope.sources[i]? = some other →
      Name.agree other.key key = true → i = p) :
    scope.coveringAlias? key = none ↔
      source.table.hasName key = true ∨
        ∀ other ∈ scope.sources, other.table.hasName key = false := by
  rw [← Option.not_isSome_iff_eq_none, coveringAlias?_isSome_iff]
  have hown : (hidingAlias? key source).isSome = false := by
    rw [← Bool.not_eq_true]
    intro h
    obtain ⟨aliasName, ha, hagree⟩ := hidingAlias?_isSome.mp h
    simp [Source.key, ha, hagree] at hkey
  constructor
  · intro h
    by_cases hname : ∃ other ∈ scope.sources, other.table.hasName key = true
    · -- A use that does not hide the name has it as its key, so it is the table at `p`.
      left
      obtain ⟨other, hother, hhas, hhides⟩ : ∃ other ∈ scope.sources,
          other.table.hasName key = true ∧ (hidingAlias? key other).isSome = false := by
        simpa [hname] using h
      obtain ⟨i, hi⟩ := List.mem_iff_getElem?.mp hother
      obtain rfl := hunique i other hi (key_agrees_of_not_hiding hhas hhides)
      obtain rfl := Option.some.inj (hsource.symm.trans hi)
      exact hhas
    · right
      simpa using hname
  · rintro (hname | hnone) ⟨⟨other, hother, hhas⟩, hall⟩
    · simpa [hown] using hall source (List.mem_of_getElem? hsource) hname
    · simp [hnone other hother] at hhas

end Scope

namespace Fragments

/-- No item gives a table the empty text as its alias. -/
def NoEmptyAlias (items : List Expr) : Prop :=
  ∀ item ∈ items, (tableItem item).toOption.bind Prod.snd ≠ some ""

/-- Every table that is found under a name has this name. -/
def FindsByName (lookup? : Lookup) : Prop :=
  ∀ name table, lookup? name = some table → table.hasName name = true

variable {lookup? : Lookup} {catalog : Catalog} {items : List Expr} {scope : Scope}

lemma findsByName_catalog (catalog : Catalog) : FindsByName catalog :=
  fun _ _ h => Catalog.hasName_of_lookup? h

/-- The tables of a statement are registered under their keys. -/
lemma agree_key_of_source (hlookup : FindsByName lookup?) {item : Expr} {entry : Source × String}
    (hitem : source lookup? item = .ok entry)
    (halias : (tableItem item).toOption.bind Prod.snd ≠ some "") :
    Name.agree entry.1.key entry.2 = true := by
  obtain ⟨v, given, table, hparts, htable, rfl⟩ := source_ok_iff.mp hitem
  cases given with
  | some aliasName =>
    have hne : aliasName ≠ "" := by simpa [hparts, Except.toOption] using halias
    simp [Source.key, Query.givenAlias, hne, Name.agree_refl]
  | none => exact hlookup _ _ htable

/-- Without empty aliases the scope of a statement is that of its tables. -/
lemma addTables_eq_ofSources_of_findsByName (hlookup : FindsByName lookup?)
    (hscope : addTables lookup? {} items = .ok scope) (haliases : NoEmptyAlias items) :
    scope = .ofSources scope.sources := by
  obtain ⟨tables, hkeyed, rfl⟩ := addTables_ok_iff.mp hscope
  refine Scope.ofKeyed_eq_ofSources fun entry hentry => ?_
  obtain ⟨item, hmem, hitem⟩ := keyedTables_mem hkeyed hentry
  exact agree_key_of_source hlookup hitem (haliases item hmem)

lemma addTables_eq_ofSources (hscope : addTables catalog {} items = .ok scope)
    (haliases : NoEmptyAlias items) : scope = .ofSources scope.sources :=
  addTables_eq_ofSources_of_findsByName (findsByName_catalog catalog) hscope haliases

/-- A key that only one table goes by stands for its position. -/
lemma positionsFor_of_unique (hscope : addTables catalog {} items = .ok scope)
    (haliases : NoEmptyAlias items) {key : String} {p : Nat} {source : Source}
    (hsource : scope.sources[p]? = some source) (hkey : Name.agree source.key key = true)
    (hunique : ∀ (i : Nat) (other : Source), scope.sources[i]? = some other →
      Name.agree other.key key = true → i = p) :
    scope.positionsFor key = [p] := by
  rw [addTables_eq_ofSources hscope haliases]
  exact Scope.positionsFor_ofSources_iff.mpr ⟨⟨source, hsource, hkey⟩, hunique⟩

/-- **Keys.** A key that only the table at `p` goes by can be used for that table, with any of its
fields and with an asterisk, exactly when the table has the key as its name or no table has. -/
theorem bind_key_iff {key name : String} {p : Nat} {source : Source} {field : Field}
    (hscope : addTables catalog {} items = .ok scope) (haliases : NoEmptyAlias items)
    (hsource : scope.sources[p]? = some source) (hkey : Name.agree source.key key = true)
    (hunique : ∀ (i : Nat) (other : Source), scope.sources[i]? = some other →
      Name.agree other.key key = true → i = p)
    (hfield : source.table.field? name = some field) (hname : name ≠ "*")
    (place : Option Nat) :
    (scope.bind { parts := [key, name], position := place } = .ok (.field p field.name) ∧
      scope.bind { parts := [key, "*"], position := place } = .ok (.tableAsterisk p)) ↔
      source.table.hasName key = true ∨
        ∀ other ∈ scope.sources, other.table.hasName key = false := by
  have hp := positionsFor_of_unique hscope haliases hsource hkey hunique
  have hfound : scope.bindByKey key name = .ok (.field p field.name) :=
    Scope.bindByKey_ok_iff.mpr ⟨p, hp, by
      rw [if_neg hname]
      exact Scope.bindFieldAt_ok_iff.mpr ⟨source, field, hsource, hfield, rfl⟩⟩
  have hall : scope.bindByKey key "*" = .ok (.tableAsterisk p) :=
    Scope.bindByKey_ok_iff.mpr ⟨p, hp, by simp⟩
  rw [← Scope.coveringAlias?_eq_none_iff_of_unique hsource hkey hunique]
  simp [Scope.bind_ok_iff, Scope.bindParts, Scope.bindQualified_ok_iff, hfound, hall]

/-- The two tables of the ledger. -/
def accounts : Table :=
  { name := "accounts", fields := [{ name := "Id" }, { name := "owner" }] }

def entries : Table :=
  { name := "entries", fields := [{ name := "id" }, { name := "amount" }] }

/-- The tables of `FROM entries e, accounts`. -/
def apartItems : List Expr :=
  [.underName (.named "entries") (.named "e") false, .named "accounts"]

theorem bind_key_apart : ∃ scope, addTables ledger {} apartItems = .ok scope ∧
    scope.bind { parts := ["E", "AMOUNT"] } = .ok (.field 0 "amount") ∧
    scope.bind { parts := ["E", "*"] } = .ok (.tableAsterisk 0) := by
  have hscope : addTables ledger {} apartItems =
      .ok (.ofKeyed [(⟨entries, some "e"⟩, "e"), (⟨accounts, none⟩, "accounts")]) := by
    rfl
  have haliases : NoEmptyAlias apartItems := by
    unfold NoEmptyAlias
    decide
  have hsource : (Scope.ofKeyed
      [(⟨entries, some "e"⟩, "e"), (⟨accounts, none⟩, "accounts")]).sources[0]? =
        some ⟨entries, some "e"⟩ := rfl
  have hfield : entries.field? "AMOUNT" = some { name := "amount" } := by decide
  refine ⟨_, hscope, (bind_key_iff hscope haliases hsource (by decide) ?_ hfield (by decide)
    none).mpr (.inr (by decide))⟩
  intro i other hi hkey
  match i, hi with
  | 0, _ => rfl
  | 1, hi =>
    obtain rfl := Option.some.inj hi
    exact absurd hkey (by decide)

/-- The tables of `FROM entries accounts, accounts a`. -/
def crossedItems : List Expr :=
  [.underName (.named "entries") (.named "accounts") false,
    .underName (.named "accounts") (.named "a") false]

/-- An alias that is the name of a table with an alias of its own: it is the key of the first table
only, and cannot be used for it. -/
theorem bind_key_crossed : ∃ scope, addTables ledger {} crossedItems = .ok scope ∧
    scope.sources.map Source.key = ["accounts", "a"] ∧
    scope.sources[0]?.bind (fun source => source.table.field? "amount") =
      some { name := "amount" } ∧
    scope.bind { parts := ["accounts", "amount"] } ≠ .ok (.field 0 "amount") ∧
    scope.bind { parts := ["accounts", "*"] } ≠ .ok (.tableAsterisk 0) := by
  refine ⟨.ofKeyed [(⟨entries, some "accounts"⟩, "accounts"), (⟨accounts, some "a"⟩, "a")], rfl, ?_⟩
  decide

end Fragments

end SelectBinding
