import SelectBinding.Proofs.Json.Rereading
import SelectBinding.Report.File

/-!
Reports are read back from the files they are written to.

A record of a file holds a member for every value that there is, under a key of its own, so that it
is taken apart into the values it was made of. This goes through all the records of a report, from
the inside out.
-/

namespace SelectBinding

open Json (Writable)

namespace Data

/-! ### Records -/

/-- The members of a record: of some values under keys, those that there are. -/
def present (slots : List (String × Option Data)) : List (String × Data) :=
  slots.flatMap fun slot => optionalMember slot.1 id slot.2

lemma mem_present {slots : List (String × Option Data)} {key : String} {value : Data} :
    (key, value) ∈ present slots ↔ (key, some value) ∈ slots := by
  simp only [present, List.mem_flatMap]
  constructor
  · rintro ⟨⟨key', _ | value'⟩, hslot, hmember⟩
    · simp [optionalMember] at hmember
    · obtain ⟨rfl, rfl⟩ : key = key' ∧ value = value' := by simpa [optionalMember] using hmember
      exact hslot
  · intro hslot
    exact ⟨_, hslot, by simp [optionalMember]⟩

/-- Under a key there is what was put under it, and nothing else. -/
lemma filter_present {slots : List (String × Option Data)} (hnodup : (slots.map Prod.fst).Nodup)
    {slot : String × Option Data} (hslot : slot ∈ slots) :
    (present slots).filter (fun member => member.1 == slot.1) =
      optionalMember slot.1 id slot.2 := by
  induction slots with
  | nil => simp at hslot
  | cons other slots ih =>
    rw [List.map_cons, List.nodup_cons] at hnodup
    rw [present, List.flatMap_cons, List.filter_append, ← present]
    rcases List.mem_cons.mp hslot with rfl | hslot
    · have hnone : (present slots).filter (fun member => member.1 == slot.1) = [] := by
        rw [List.filter_eq_nil_iff]
        intro member hmember hkey
        refine hnodup.1 (List.mem_map.mpr ⟨_, mem_present.mp hmember, ?_⟩)
        exact eq_of_beq hkey
      rw [hnone, List.append_nil]
      cases slot.2 <;> simp [optionalMember]
    · have hkey : other.1 ≠ slot.1 := fun h =>
        hnodup.1 (List.mem_map.mpr ⟨slot, hslot, h.symm⟩)
      rw [ih hnodup.2 hslot]
      cases other.2 <;> simp [optionalMember, hkey]

/-- A record is taken apart into the values it was made of. -/
lemma members?_present {slots : List (String × Option Data)}
    (hnodup : (slots.map Prod.fst).Nodup) (least : Nat) :
    members? .json (slots.map Prod.fst) least (.record (present slots)) =
      some (slots.map Prod.snd) := by
  refine mapM_map_eq_some fun slot hslot => ?_
  rw [memberOnce?, filter_present hnodup hslot]
  cases slot.2 <;> rfl

lemma writable_present {slots : List (String × Option Data)}
    (h : ∀ slot ∈ slots, ∀ value ∈ slot.2, Writable value) : Writable (.record (present slots)) :=
  .record fun member hmember => h _ (mem_present.mp hmember) member.2 rfl

/-! ### Values -/

/-- What `write` makes of `a` is a value that text holds, and it is read as `a` again. -/
structure Reloads {α : Type} (write : α → Data) (read? : Data → Option α) (a : α) : Prop where
  writable : Writable (write a)
  reads : read? (write a) = some a

lemma reloads_text (value : String) : Reloads .text text? value :=
  ⟨.text value, rfl⟩

lemma reloads_bool (value : Bool) : Reloads .bool bool? value :=
  ⟨.bool value, rfl⟩

lemma reloads_nat {bound n : Nat} (h : n < bound) : Reloads .nat (natBelow? bound) n := by
  refine ⟨.nat n, ?_⟩
  simp only [natBelow?, nat, Decimal.natural?_toString]
  simp [h]

section Composite

variable {α : Type} {write : α → Data} {read? : Data → Option α}

/-- What text holds is read back from text. -/
lemma Reloads.read?_pretty {a : α} (h : Reloads write read? a) :
    (Json.read? (Json.pretty (write a))).bind read? = some a := by
  rw [h.writable.read?_pretty]
  exact h.reads

/-- A list is read back when its items are. -/
lemma reloads_list {items : List α} (h : ∀ a ∈ items, Reloads write read? a) :
    Reloads (fun items => .list (items.map write)) (listOf? read?) items where
  writable := .list fun value hvalue => by
    obtain ⟨a, ha, rfl⟩ := List.mem_map.mp hvalue
    exact (h a ha).writable
  reads := by
    have hitems := mapM_map_eq_some (k := id) fun a ha => (h a ha).reads
    rw [List.map_id] at hitems
    exact hitems

lemma orNull?_of_ne_null {value : Data} (h : value ≠ .null) :
    orNull? read? value = (read? value).map some := by
  cases value <;> first | rfl | contradiction

/-- A value that may be null is read back, null standing for nothing but the lack of one. -/
lemma reloads_option {o : Option α} (h : ∀ a ∈ o, Reloads write read? a)
    (hnull : ∀ a, write a ≠ .null) : Reloads (Data.option write) (orNull? read?) o := by
  cases o with
  | none => exact ⟨.null, rfl⟩
  | some a =>
    refine ⟨(h a rfl).writable, ?_⟩
    rw [Data.option, orNull?_of_ne_null (hnull a), (h a rfl).reads]
    rfl

end Composite

/-! ### Members -/

/-- A member is a value that text holds, or none, and stands for `b`. -/
structure Stored {β : Type} (member : Option Data) (take? : Option Data → Option β) (b : β) :
    Prop where
  writable : ∀ value ∈ member, Writable value
  taken : take? member = some b

section Members

variable {α : Type} {write : α → Data} {read? : Data → Option α}

lemma Reloads.required {a : α} (h : Reloads write read? a) :
    Stored (some (write a)) (required? read?) a where
  writable value hvalue := by
    obtain rfl := Option.some.inj hvalue
    exact h.writable
  taken := h.reads

lemma stored_optional {o : Option α} (h : ∀ a ∈ o, Reloads write read? a)
    (hnull : ∀ a, write a ≠ .null) : Stored (o.map write) (optional? read?) o := by
  cases o with
  | none => exact ⟨by simp, rfl⟩
  | some a =>
    refine ⟨(h a rfl).required.writable, ?_⟩
    exact (reloads_option h hnull).reads

/-- A record is read back when it is put together of members that are, under different keys. -/
lemma Reloads.of_present {a : α} (least : Nat) (slots : List (String × Option Data))
    (hdata : write a = .record (present slots)) (hnodup : (slots.map Prod.fst).Nodup)
    (hwritable : ∀ slot ∈ slots, ∀ value ∈ slot.2, Writable value)
    (hreads : ∀ value, members? .json (slots.map Prod.fst) least value = some (slots.map Prod.snd) →
      read? value = some a) : Reloads write read? a where
  writable := by
    rw [hdata]
    exact writable_present hwritable
  reads := by
    rw [hdata]
    exact hreads _ (members?_present hnodup least)

end Members

end Data

open Data

/-! ### The records of a report

The numbers of a report are words, and a file is not read when it has greater ones. -/

/-- The numbers of the version are words of 32 bits. -/
structure ReportVersion.Fits (version : ReportVersion) : Prop where
  major : version.major < UInt32.size
  minor : version.minor < UInt32.size

/-- The position of the table is a word. -/
structure TableEntry.Fits (entry : TableEntry) : Prop where
  position : entry.position < UInt64.size

/-- The positions of the column are words. -/
structure ColumnEntry.Fits (entry : ColumnEntry) : Prop where
  position : entry.position < UInt64.size
  tablePosition : ∀ n ∈ entry.tablePosition, n < UInt64.size

/-- The positions of the column are words. -/
structure ExpandedEntry.Fits (entry : ExpandedEntry) : Prop where
  tablePosition : ∀ n ∈ entry.tablePosition, n < UInt64.size
  column : entry.column < UInt64.size

/-- The positions in the description are words. -/
structure QueryDescription.Fits (d : QueryDescription) : Prop where
  tables : ∀ entry ∈ d.tables, entry.Fits
  columns : ∀ entry ∈ d.columns, entry.Fits
  expanded : ∀ entry ∈ d.expanded, entry.Fits
  primaryKeyOrder : ∀ index ∈ d.primaryKeyOrder, ∀ n ∈ index, n < UInt64.size

/-- The place of the error is a word. -/
structure Diagnostic.Fits (e : Diagnostic) : Prop where
  position : ∀ n ∈ e.position, n < UInt64.size

/-- The numbers of the report are words. -/
structure Report.Fits (report : Report) : Prop where
  version : report.version.Fits
  query : ∀ d ∈ report.query, d.Fits
  error : ∀ e ∈ report.error, e.Fits

lemma reloads_position {n : Nat} (h : n < UInt64.size) : Reloads .nat position? n :=
  reloads_nat h

lemma stored_text (value : String) : Stored (some (.text value)) (required? text?) value :=
  (reloads_text value).required

lemma stored_optionalText (value : Option String) :
    Stored (value.map .text) (optional? text?) value :=
  stored_optional (fun a _ => reloads_text a) fun _ => nofun

lemma stored_optionalPosition {position : Option Nat} (h : ∀ n ∈ position, n < UInt64.size) :
    Stored (position.map .nat) (optional? position?) position :=
  stored_optional (fun n hn => reloads_position (h n hn)) fun _ => nofun

lemma ReportVersion.Fits.reloads {version : ReportVersion} (h : version.Fits) :
    Reloads toData ofData? version := by
  have hmajor := (reloads_nat h.major).required
  have hminor := (reloads_nat h.minor).required
  refine .of_present 2
    [("major", some (.nat version.major)), ("minor", some (.nat version.minor))] rfl (by simp) ?_
    fun value hmembers => ?_
  · simp [hmajor.writable, hminor.writable]
  · simp only [List.map_cons, List.map_nil] at hmembers
    simp [ofData?, hmembers, hmajor.taken, hminor.taken]

lemma TableEntry.Fits.reloads {entry : TableEntry} (h : entry.Fits) :
    Reloads toData ofData? entry := by
  have hposition := (reloads_position h.position).required
  have hname := stored_text entry.name
  have halias := stored_optionalText entry.aliasName
  refine .of_present 3
    [("position", some (.nat entry.position)), ("name", some (.text entry.name)),
      ("alias", entry.aliasName.map .text)] ?_ (by simp) ?_ fun value hmembers => ?_
  · rcases entry with ⟨position, name, _ | aliasName⟩ <;> rfl
  · simp only [List.mem_cons, List.not_mem_nil, or_false, forall_eq_or_imp, forall_eq]
    exact ⟨hposition.writable, hname.writable, halias.writable⟩
  · simp only [List.map_cons, List.map_nil] at hmembers
    simp [ofData?, hmembers, hposition.taken, hname.taken, halias.taken]

lemma ColumnEntry.Fits.reloads {entry : ColumnEntry} (h : entry.Fits) :
    Reloads toData ofData? entry := by
  have hposition := (reloads_position h.position).required
  have hkind := stored_text entry.kind
  have htext := stored_text entry.text
  have halias := stored_optionalText entry.aliasName
  have htable := stored_optionalPosition h.tablePosition
  have hvisible := (reloads_bool entry.visible).required
  refine .of_present 6
    [("position", some (.nat entry.position)), ("kind", some (.text entry.kind)),
      ("text", some (.text entry.text)), ("alias", entry.aliasName.map .text),
      ("table_position", entry.tablePosition.map .nat), ("visible", some (.bool entry.visible))]
    ?_ (by simp) ?_ fun value hmembers => ?_
  · rcases entry with ⟨position, kind, text, _ | aliasName, _ | tablePosition, visible⟩ <;> rfl
  · simp only [List.mem_cons, List.not_mem_nil, or_false, forall_eq_or_imp, forall_eq]
    exact ⟨hposition.writable, hkind.writable, htext.writable, halias.writable, htable.writable,
      hvisible.writable⟩
  · simp only [List.map_cons, List.map_nil] at hmembers
    simp [ofData?, hmembers, hposition.taken, hkind.taken, htext.taken, halias.taken, htable.taken,
      hvisible.taken]

lemma ExpandedEntry.Fits.reloads {entry : ExpandedEntry} (h : entry.Fits) :
    Reloads toData ofData? entry := by
  have hname := stored_text entry.name
  have htable := stored_optionalText entry.table
  have hposition := stored_optionalPosition h.tablePosition
  have hcolumn := (reloads_position h.column).required
  have hvisible := (reloads_bool entry.visible).required
  refine .of_present 5
    [("name", some (.text entry.name)), ("table", entry.table.map .text),
      ("table_position", entry.tablePosition.map .nat), ("column", some (.nat entry.column)),
      ("visible", some (.bool entry.visible))]
    ?_ (by simp) ?_ fun value hmembers => ?_
  · rcases entry with ⟨name, _ | table, _ | tablePosition, column, visible⟩ <;> rfl
  · simp only [List.mem_cons, List.not_mem_nil, or_false, forall_eq_or_imp, forall_eq]
    exact ⟨hname.writable, htable.writable, hposition.writable, hcolumn.writable,
      hvisible.writable⟩
  · simp only [List.map_cons, List.map_nil] at hmembers
    simp [ofData?, hmembers, hname.taken, htable.taken, hposition.taken, hcolumn.taken,
      hvisible.taken]

lemma SortEntry.reloads (entry : SortEntry) : Reloads toData ofData? entry := by
  have htarget := stored_text entry.target
  have hascending := (reloads_bool entry.ascending).required
  refine .of_present 2
    [("target", some (.text entry.target)), ("ascending", some (.bool entry.ascending))]
    rfl (by simp) ?_ fun value hmembers => ?_
  · simp only [List.mem_cons, List.not_mem_nil, or_false, forall_eq_or_imp, forall_eq]
    exact ⟨htarget.writable, hascending.writable⟩
  · simp only [List.map_cons, List.map_nil] at hmembers
    simp [ofData?, hmembers, htarget.taken, hascending.taken]

lemma QueryDescription.Fits.reloads {d : QueryDescription} (h : d.Fits) :
    Reloads toData ofData? d := by
  have hsql := stored_text d.sql
  have htables := (reloads_list fun entry hentry => (h.tables entry hentry).reloads).required
  have hmaster := stored_optionalText d.masterTable
  have hcolumns := (reloads_list fun entry hentry => (h.columns entry hentry).reloads).required
  have hexpanded := (reloads_list fun entry hentry => (h.expanded entry hentry).reloads).required
  have hfilter := stored_optionalText d.filter
  have hordering := (reloads_list fun entry (_ : entry ∈ d.ordering) => entry.reloads).required
  have hkey := (reloads_list fun index hindex => reloads_option
    (fun n hn => reloads_position (h.primaryKeyOrder index hindex n hn)) fun _ => nofun).required
  refine .of_present 8
    [("sql", some (.text d.sql)), ("tables", some (.list (d.tables.map TableEntry.toData))),
      ("master_table", d.masterTable.map .text),
      ("columns", some (.list (d.columns.map ColumnEntry.toData))),
      ("expanded", some (.list (d.expanded.map ExpandedEntry.toData))),
      ("where", d.filter.map .text),
      ("order_by", some (.list (d.ordering.map SortEntry.toData))),
      ("pkey_fields_order", some (.list (d.primaryKeyOrder.map (Data.option Data.nat))))]
    ?_ (by simp) ?_ fun value hmembers => ?_
  · rcases d with ⟨sql, tables, _ | masterTable, columns, expanded, _ | filter, ordering, key⟩ <;>
      rfl
  · simp only [List.mem_cons, List.not_mem_nil, or_false, forall_eq_or_imp, forall_eq]
    exact ⟨hsql.writable, htables.writable, hmaster.writable, hcolumns.writable,
      hexpanded.writable, hfilter.writable, hordering.writable, hkey.writable⟩
  · simp only [List.map_cons, List.map_nil] at hmembers
    simp [ofData?, hmembers, hsql.taken, htables.taken, hmaster.taken, hcolumns.taken,
      hexpanded.taken, hfilter.taken, hordering.taken, hkey.taken]

lemma ErrorKind.reloads (kind : ErrorKind) :
    Reloads (fun kind : ErrorKind => .text kind.key) ofData? kind :=
  ⟨.text kind.key, by cases kind <;> decide⟩

lemma Diagnostic.Fits.reloads {e : Diagnostic} (h : e.Fits) : Reloads toData ofData? e := by
  have hkind := e.kind.reloads.required
  have hmessage := stored_text e.message
  have hdetails := stored_optionalText e.details
  have htoken : Stored (some (.text e.token)) (withDefault? "" text?) e.token :=
    ⟨(stored_text e.token).writable, rfl⟩
  have hposition := stored_optional (fun n hn => reloads_nat (h.position n hn)) fun _ => nofun
  refine .of_present 2
    [("kind", some (.text e.kind.key)), ("message", some (.text e.message)),
      ("details", e.details.map .text), ("token", some (.text e.token)),
      ("position", e.position.map .nat)]
    ?_ (by simp) ?_ fun value hmembers => ?_
  · rcases e with ⟨kind, message, _ | details, token, _ | position⟩ <;> rfl
  · simp only [List.mem_cons, List.not_mem_nil, or_false, forall_eq_or_imp, forall_eq]
    exact ⟨hkind.writable, hmessage.writable, hdetails.writable, htoken.writable,
      hposition.writable⟩
  · simp only [List.map_cons, List.map_nil] at hmembers
    simp [ofData?, hmembers, hkind.taken, hmessage.taken, hdetails.taken, htoken.taken,
      hposition.taken]

lemma Report.Fits.reloads {report : Report} (h : report.Fits) :
    Reloads toData ofData? report := by
  have hversion := h.version.reloads.required
  have hstatement := stored_text report.statement
  have hquery := stored_optional (fun d hd => (h.query d hd).reloads) fun _ => nofun
  have herror := stored_optional (fun e he => (h.error e he).reloads) fun _ => nofun
  refine .of_present 4
    [("version", some report.version.toData), ("statement", some (.text report.statement)),
      ("query", report.query.map QueryDescription.toData),
      ("error", report.error.map Diagnostic.toData)]
    ?_ (by simp) ?_ fun value hmembers => ?_
  · rcases report with ⟨version, statement, _ | query, _ | error⟩ <;> rfl
  · simp only [List.mem_cons, List.not_mem_nil, or_false, forall_eq_or_imp, forall_eq]
    exact ⟨hversion.writable, hstatement.writable, hquery.writable, herror.writable⟩
  · simp only [List.map_cons, List.map_nil] at hmembers
    simp [ofData?, hmembers, hversion.taken, hstatement.taken, hquery.taken, herror.taken]

/-! ### What files hold -/

namespace Data

/-- Whatever is read has the property. -/
def Yields {α β : Type} (take? : α → Option β) (P : β → Prop) : Prop :=
  ∀ value b, take? value = some b → P b

lemma yields_natBelow? (bound : Nat) : Yields (natBelow? bound) (· < bound) := by
  intro value n h
  unfold natBelow? at h
  split at h
  · simpa using (Option.filter_eq_some_iff.mp h).2
  · contradiction

lemma yields_position : Yields position? (· < UInt64.size) :=
  yields_natBelow? UInt64.size

section Yields

variable {α : Type} {read? : Data → Option α} {P : α → Prop}

lemma Yields.required (h : Yields read? P) {member : Option Data} {a : α}
    (hread : required? read? member = some a) : P a := by
  obtain ⟨value, -, hvalue⟩ := Option.bind_eq_some_iff.mp hread
  exact h value a hvalue

lemma Yields.orNull (h : Yields read? P) : Yields (orNull? read?) fun o => ∀ a ∈ o, P a := by
  rintro value o hread a rfl
  by_cases hnull : value = .null
  · subst hnull
    simp [orNull?] at hread
  · rw [orNull?_of_ne_null hnull, Option.map_eq_some_iff] at hread
    obtain ⟨b, hb, hab⟩ := hread
    obtain rfl := Option.some.inj hab
    exact h value b hb

lemma Yields.optional (h : Yields read? P) {member : Option Data} {o : Option α}
    (hread : optional? read? member = some o) : ∀ a ∈ o, P a := by
  cases member with
  | none =>
    obtain rfl := Option.some.inj hread
    simp
  | some value => exact h.orNull value o hread

lemma Yields.listOf (h : Yields read? P) : Yields (listOf? read?) fun l => ∀ a ∈ l, P a := by
  intro value l hread a ha
  obtain ⟨items, -, hitems⟩ := Option.bind_eq_some_iff.mp hread
  obtain ⟨item, -, hitem⟩ := exists_of_mapM_eq_some hitems ha
  exact h item a hitem

end Yields

end Data

lemma ReportVersion.yields_fits : Yields ofData? Fits := by
  intro value version h
  unfold ofData? at h
  split at h
  · simp only [Option.bind_eq_bind, Option.bind_eq_some_iff, Option.pure_def,
      Option.some.injEq] at h
    obtain ⟨major, hmajor, minor, hminor, rfl⟩ := h
    exact ⟨(yields_natBelow? _).required hmajor, (yields_natBelow? _).required hminor⟩
  · contradiction

lemma TableEntry.yields_fits : Yields ofData? Fits := by
  intro value entry h
  unfold ofData? at h
  split at h
  · simp only [Option.bind_eq_bind, Option.bind_eq_some_iff, Option.pure_def,
      Option.some.injEq] at h
    obtain ⟨position, hposition, name, -, aliasName, -, rfl⟩ := h
    exact ⟨yields_position.required hposition⟩
  · contradiction

lemma ColumnEntry.yields_fits : Yields ofData? Fits := by
  intro value entry h
  unfold ofData? at h
  split at h
  · simp only [Option.bind_eq_bind, Option.bind_eq_some_iff, Option.pure_def,
      Option.some.injEq] at h
    obtain ⟨position, hposition, kind, -, text, -, aliasName, -, table, htable, visible, -, rfl⟩ := h
    exact ⟨yields_position.required hposition, yields_position.optional htable⟩
  · contradiction

lemma ExpandedEntry.yields_fits : Yields ofData? Fits := by
  intro value entry h
  unfold ofData? at h
  split at h
  · simp only [Option.bind_eq_bind, Option.bind_eq_some_iff, Option.pure_def,
      Option.some.injEq] at h
    obtain ⟨name, -, table, -, position, hposition, column, hcolumn, visible, -, rfl⟩ := h
    exact ⟨yields_position.optional hposition, yields_position.required hcolumn⟩
  · contradiction

lemma QueryDescription.yields_fits : Yields ofData? Fits := by
  intro value d h
  unfold ofData? at h
  split at h
  · simp only [Option.bind_eq_bind, Option.bind_eq_some_iff, Option.pure_def,
      Option.some.injEq] at h
    obtain ⟨sql, -, tables, htables, master, -, columns, hcolumns, expanded, hexpanded, filter, -,
      ordering, -, key, hkey, rfl⟩ := h
    exact ⟨TableEntry.yields_fits.listOf.required htables,
      ColumnEntry.yields_fits.listOf.required hcolumns,
      ExpandedEntry.yields_fits.listOf.required hexpanded,
      yields_position.orNull.listOf.required hkey⟩
  · contradiction

lemma Diagnostic.yields_fits : Yields ofData? Fits := by
  intro value e h
  unfold ofData? at h
  split at h
  · simp only [Option.bind_eq_bind, Option.bind_eq_some_iff, Option.pure_def,
      Option.some.injEq] at h
    obtain ⟨kind, -, message, -, details, -, token, -, position, hposition, rfl⟩ := h
    exact ⟨yields_position.optional hposition⟩
  · contradiction

lemma Report.yields_fits : Yields ofData? Fits := by
  intro value report h
  unfold ofData? at h
  split at h
  · simp only [Option.bind_eq_bind, Option.bind_eq_some_iff, Option.pure_def,
      Option.some.injEq] at h
    obtain ⟨version, hversion, statement, -, query, hquery, error, herror, rfl⟩ := h
    exact ⟨ReportVersion.yields_fits.required hversion,
      QueryDescription.yields_fits.optional hquery,
      Diagnostic.yields_fits.optional herror⟩
  · contradiction

namespace Report

/-- **Reports.** A report is read back from the text of its file as it is, whatever its texts are and
whichever of its parts are there. -/
theorem read_write {report : Report} (h : report.Fits) : read? report.write = some report :=
  h.reloads.read?_pretty

/-- A report with an error, a description and texts that have to be escaped. -/
def tangled : Report where
  version := .current
  statement := "SELECT \"größe\"\r\n\tFROM \\ \x01"
  query := some
    { sql := "SELECT \"größe\" FROM t"
      tables := [⟨0, "t", none⟩, ⟨1, "", some "/\x7f"⟩]
      masterTable := none
      columns := [⟨0, "field", "größe", none, some 0, true⟩]
      expanded := [⟨"größe", some "t", none, 0, false⟩]
      filter := some "t.a = '\n'"
      ordering := [⟨"#1", false⟩]
      primaryKeyOrder := [some 0, none] }
  error := some { kind := .shape, message := "\"\\\"", position := some 18446744073709551615 }

theorem read_write_tangled : tangled.Fits ∧ read? tangled.write = some tangled := by
  have hfits : tangled.Fits := by
    refine ⟨⟨by decide, by decide⟩, ?_, ?_⟩
    · rintro d hd
      obtain rfl := Option.some.inj hd
      refine ⟨?_, ?_, ?_, by decide⟩
      · simp only [List.mem_cons, List.not_mem_nil, or_false, forall_eq_or_imp, forall_eq]
        exact ⟨⟨by decide⟩, ⟨by decide⟩⟩
      · simp only [List.mem_cons, List.not_mem_nil, or_false, forall_eq]
        exact ⟨by decide, by decide⟩
      · simp only [List.mem_cons, List.not_mem_nil, or_false, forall_eq]
        exact ⟨by decide, by decide⟩
    · rintro e he
      obtain rfl := Option.some.inj he
      exact ⟨by decide⟩
  exact ⟨hfits, read_write hfits⟩

/-- **Files.** Whatever file a report was read from, it is read back from the file that it is written
to. -/
theorem read_write_of_read {text : String} {report : Report} (h : read? text = some report) :
    read? report.write = some report := by
  obtain ⟨value, -, hvalue⟩ := Option.bind_eq_some_iff.mp h
  exact (yields_fits value report hvalue).reloads.read?_pretty

end Report

end SelectBinding
