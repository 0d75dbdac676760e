import SelectBinding.Proofs.Place.Reports
import SelectBinding.Proofs.Text.Items

/-!
Reading a query again from its text.

What a query is written as says its columns, its tables, its filter and its sorting. Where each of
these can be read, reading the text yields a query that is like the first one exactly when the names
in the text keep what they stand for.
-/

namespace SelectBinding

open Sql Sql.Grammar

/-! ### What is read of a statement -/

namespace Sql.Reading

variable {r : Reading}

/-- A criterion by number is kept as the digits of a number of an unsigned word. -/
lemma sortItem_counted {order : Nat} {item : SortTerm} {position : Option Nat} {found : SortItem}
    (h : r.sortItem order item position = .ok found) : found.Counted := by
  have hname {idents : List Ident} {ascending : Bool}
      (h : r.sortName idents ascending = .ok found) : found.Counted := by
    obtain ⟨parts, -, hfound⟩ := Except.bind_eq_ok_iff.mp h
    obtain rfl := Except.ok.inj hfound
    simp [SortItem.Counted]
  unfold sortItem at h
  extract_lets start ascending at h
  split at h
  · cases h
  · cases h
  · split at h
    · cases h
    · split at h
      · rename_i spelling _ _
        unfold sortNumber at h
        split at h
        · rename_i n hn
          cases h
          rintro _ ⟨⟩
          exact ⟨by simpa using (Option.filter_eq_some_iff.mp hn).2, rfl⟩
        · cases h
      · exact hname h
      · exact hname h
      · cases h

lemma sortItems_counted {order : Nat} {offsets : List Nat} {items : List SortTerm}
    {sorted : List SortItem} (h : r.sortItems order offsets items = .ok sorted) :
    ∀ item ∈ sorted, item.Counted := by
  induction items generalizing offsets sorted with
  | nil =>
    obtain rfl := Except.ok.inj h
    simp
  | cons item rest ih =>
    obtain ⟨first, hfirst, h⟩ := Except.bind_eq_ok_iff.mp h
    obtain ⟨more, hmore, h⟩ := Except.bind_eq_ok_iff.mp h
    obtain rfl := Except.ok.inj h
    exact List.forall_mem_cons.mpr ⟨sortItem_counted hfirst, ih hmore⟩

lemma ordering_counted {select : Nat} {sorting : Option Sorting} {sorted : List SortItem}
    (h : r.ordering select sorting = .ok sorted) : ∀ item ∈ sorted, item.Counted := by
  cases sorting with
  | none =>
    obtain rfl := Except.ok.inj h
    simp
  | some sorting =>
    simp only [ordering] at h
    split at h
    · cases h
    · exact sortItems_counted h

/-- The parts of a query that has items have columns, and the numbers among its criteria are kept as
their digits. -/
lemma fragments_counts {q : QueryTree} {parts : Fragments}
    (hitems : ∀ s, q.body = .select s → s.items ≠ []) (h : r.fragments q = .ok parts) :
    parts.columns.getD [] ≠ [] ∧
      ∀ item ∈ (parts.clauses.map Clauses.ordering).getD [], item.Counted := by
  obtain ⟨-, -, h⟩ := Except.bind_eq_ok_iff.mp h
  obtain ⟨s, hs, h⟩ := Except.bind_eq_ok_iff.mp h
  obtain ⟨-, -, h⟩ := Except.bind_eq_ok_iff.mp h
  obtain ⟨columns, hcolumns, h⟩ := Except.bind_eq_ok_iff.mp h
  obtain ⟨tables, -, h⟩ := Except.bind_eq_ok_iff.mp h
  obtain ⟨filter, -, h⟩ := Except.bind_eq_ok_iff.mp h
  obtain ⟨ordering, hordering, h⟩ := Except.bind_eq_ok_iff.mp h
  obtain rfl := Except.ok.inj h
  have hbody : q.body = .select s := by
    cases hq : q.body with
    | select s' =>
      rw [hq] at hs
      rw [Except.ok.inj hs]
    | _ =>
      rw [hq] at hs
      cases hs
  constructor
  · have hlength := (Except.mapM_ok_iff.mp hcolumns).length_eq
    have hne := hitems s hbody
    simp only [Option.getD_some, ne_eq, ← List.length_eq_zero_iff] at hne ⊢
    omega
  · intro item hitem
    refine ordering_counted hordering item ?_
    dsimp only at hitem
    split at hitem
    · simp at hitem
    · exact hitem

end Sql.Reading

namespace Reader

variable {reader : Reader} {sql : String}

lemma parts?_counts {parts : Fragments} (h : reader.parts? sql = .ok parts) :
    parts.columns.getD [] ≠ [] ∧
      ∀ item ∈ (parts.clauses.map Clauses.ordering).getD [], item.Counted := by
  obtain ⟨tree, hstatements, hparts⟩ := fragments_of_parts? h
  have hinside := Reading.statements_inside hstatements
  exact Reading.fragments_counts
    (fun s hs => ((hinside _ (by simp) tree rfl).body s hs).nonempty) hparts

end Reader

/-! ### What is read of a query -/

namespace Query

/-- Texts that say what writes something are read as things that write it. -/
lemma written_of_saysWritten {α β : Type} {one : List Token → α → Prop} {bare : α → α}
    {text : β → String} {writes : β → α → Prop} {bs : List β}
    (h : ∀ b ∈ bs, SaysWritten one bare (text b) (writes b)) :
    ∃ items, List.Forall₂ (Says one) (bs.map text) items ∧
      ∀ read : List α, read.map bare = items → List.Forall₂ writes bs read := by
  obtain ⟨items, hitems⟩ := exists_forall₂_iff.mpr h
  refine ⟨items, ?_, ?_⟩
  · rw [List.forall₂_map_left_iff]
    exact hitems.imp fun _ _ h => h.1
  · rintro read rfl
    rw [List.forall₂_map_right_iff] at hitems
    exact hitems.imp fun _ _ h => h.2 _ rfl

/-- The text of a query can be read: no column that is an asterisk has an alias, no criterion is an
expression, no table goes by the name of a form of its own, and everything that an expression says
is spelled in a way that is read. -/
structure Legible (q : Query) (reserved : Reserved) : Prop where
  columns : ∀ column ∈ q.columns, q.legibleColumn reserved column = true
  tables : ∀ source ∈ q.sources, reserved.MayBeTable source.table.name
  filter : ∀ e ∈ q.filter, e.Writable reserved false
  ordering : ∀ key ∈ q.ordering, q.legibleTarget reserved key.target = true

instance (q : Query) (reserved : Reserved) : Decidable (q.Legible reserved) :=
  decidable_of_iff
    ((∀ column ∈ q.columns, q.legibleColumn reserved column = true) ∧
      (∀ source ∈ q.sources, reserved.MayBeTable source.table.name) ∧
      (∀ e ∈ q.filter, e.Writable reserved false) ∧
      ∀ key ∈ q.ordering, q.legibleTarget reserved key.target = true)
    ⟨fun ⟨h, h', h'', h'''⟩ => ⟨h, h', h'', h'''⟩,
      fun h => ⟨h.columns, h.tables, h.filter, h.ordering⟩⟩

end Query

namespace Reader

variable {reader : Reader} {sql : String} {q : Query}

/-- The text of a filter says the filter regrouped. -/
lemma says_filter (hreserved : reader.reserved.IsComplete)
    (hlegible : ∀ e ∈ q.filter, e.Writable reader.reserved false) :
    Option.Rel (Says (derives reader.reserved 48 0 0))
      (q.filter.map fun expr => expr.render reader.reserved) (q.filter.map Expr.regrouped) := by
  cases hq : q.filter with
  | none => exact .none
  | some e => exact .some (says_term hreserved (hlegible e hq))

/-- **Parts.** The text of a query that can be read is read as parts which write it. -/
lemma parts_of_render (hdialect : reader.dialect = .ansi) (hreserved : reader.reserved.IsComplete)
    (h : reader.query sql = .ok q) (hlegible : q.Legible reader.reserved) :
    ∃ parts, reader.parts? (reader.render q) = .ok parts ∧ q.WrittenBy parts := by
  obtain ⟨first, built, hfirst, hbuilt, rfl⟩ := query_ok_iff.mp h
  have hwell : (built.setStatement sql).WellFormed := query_wellFormed h
  obtain ⟨hexpressions, hfilter⟩ := Fragments.build_expressions hbuilt
  obtain ⟨hitems, hcounted⟩ := parts?_counts hfirst
  obtain ⟨hlength, hnumbers⟩ :=
    Fragments.build_counts hbuilt fun item hitem n hn => (hcounted item hitem n hn).1
  obtain ⟨columns, hcolumns, hcolumns'⟩ := Query.written_of_saysWritten fun column hcolumn =>
    Query.saysWritten_column hreserved (hwell.columns column hcolumn) (hlegible.columns column hcolumn)
      (hexpressions column hcolumn)
  obtain ⟨tables, htables, htables'⟩ := Query.written_of_saysWritten fun source hsource =>
    Query.saysWritten_source hreserved (hlegible.tables source hsource)
  obtain ⟨ordering, hordering, hordering'⟩ := Query.written_of_saysWritten fun key hkey =>
    Query.saysWritten_key hreserved hwell hlegible.columns (hlegible.ordering key hkey)
      (hnumbers key hkey)
  have hne : (built.columns.map (built.renderColumn reader.reserved)) ≠ [] := by
    simpa [← List.length_eq_zero_iff, hlength] using hitems
  have hstatement := says_statementOf
    (o := ⟨columns, tables, built.filter.map Expr.regrouped, ordering⟩) hne hcolumns htables
    (says_filter hreserved hlegible.filter) hordering
  obtain ⟨parts, hparts, hsaid⟩ :=
    hstatement.parts hdialect hreserved (statementOf_not_blank _ _ _ _)
  refine ⟨parts, hparts, htables' _ hsaid.tables, hcolumns' _ hsaid.columns, ?_,
    hordering' _ hsaid.ordering⟩
  have hread := hsaid.filter
  cases hq : built.filter with
  | none => exact .inl ⟨hq, by simpa [hq] using hread⟩
  | some e =>
    rw [hq] at hread
    obtain ⟨written, hwritten, hbare⟩ := Option.map_eq_some_iff.mp hread
    exact .inr ⟨e, written, hq, hwritten, Query.writesNames_of_bare (hfilter e hq) hbare⟩

/-- **Reading again.** Where the text of a query that was read can be read, reading it yields a
query with the same tables and columns exactly when the names in it keep what they stand for. -/
theorem round_trip_iff (hdialect : reader.dialect = .ansi) (hreserved : reader.reserved.IsComplete)
    (h : reader.query sql = .ok q) (hlegible : q.Legible reader.reserved) :
    (∃ q', reader.query (reader.render q) = .ok q' ∧ q.Alike q') ↔ q.NamesKeep reader.catalog := by
  obtain ⟨parts, hparts, hwritten⟩ := parts_of_render hdialect hreserved h hlegible
  exact reread_iff h hparts hwritten

/-- A statement with every kind of column and criterion. -/
def ledgerStatement : String :=
  "SELECT a.id, entries.*, COUNT(*) + amount AS n FROM accounts a, entries " ++
    "WHERE a.id = entries.id AND NOT owner IS NULL ORDER BY n, 2 DESC, owner"

theorem round_trip_ledger :
    ledgerReader.dialect = .ansi ∧ ledgerReader.reserved.IsComplete ∧
      ∃ q, ledgerReader.query ledgerStatement = .ok q ∧ q.Legible ledgerReader.reserved ∧
        ∃ q', ledgerReader.query (ledgerReader.render q) = .ok q' ∧ q.Alike q' := by
  have hreserved : ledgerReader.reserved.IsComplete := fun _ h => h
  obtain ⟨q, h, hboth⟩ := Except.exists_of_toOption_map (x := ledgerReader.query ledgerStatement)
    (f := fun q => decide (q.Legible ledgerReader.reserved ∧ q.NamesKeep ledgerReader.catalog))
    (b := true) (by decide +kernel)
  obtain ⟨hlegible, hkeep⟩ := of_decide_eq_true hboth
  exact ⟨rfl, hreserved, q, h, hlegible, (round_trip_iff rfl hreserved h hlegible).mpr hkeep⟩

/-- Where the alias of one table is the name of another one that has an alias as well, a field is
written after the alias, which is then taken for that name and refused. -/
theorem crossed_alias_refused :
    ∃ q, ledgerReader.query "SELECT owner FROM accounts entries, entries e" = .ok q ∧
      ∀ q', ledgerReader.query (ledgerReader.render q) ≠ .ok q' := by
  obtain ⟨q, h, hrefused⟩ := Except.exists_of_toOption_map
    (x := ledgerReader.query "SELECT owner FROM accounts entries, entries e")
    (f := fun q => (ledgerReader.query (ledgerReader.render q)).isOk) (b := false)
    (by decide +kernel)
  refine ⟨q, h, fun q' hq' => ?_⟩
  rw [hq'] at hrefused
  exact absurd hrefused (by simp [Except.isOk, Except.toBool])

end Reader

end SelectBinding
