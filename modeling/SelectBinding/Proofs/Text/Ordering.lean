import SelectBinding.Proofs.Build.Targets
import SelectBinding.Proofs.Text.Rereading

/-!
The sorting of a query that is read again from its text.

The second reading finds something for every criterion of the text, but not always what the query
was sorted by: the names that are written for fields are looked up among columns and tables once
more. The sorting stays as it was exactly when each of these names is found as what it was written
for, and always where the tables of the query are apart.
-/

namespace SelectBinding

namespace Reader

variable {reader : Reader} {sql : String} {q q' : Query}

/-- What a query that was read is sorted by is what the criteria of the statement sort by in it. -/
lemma sortsAs_of_query {parts : Fragments} (h : reader.query sql = .ok q)
    (hparts : reader.parts? sql = .ok parts) :
    List.Forall₂ q.SortsAs ((parts.clauses.map Clauses.ordering).getD []) q.ordering := by
  obtain ⟨parts', built, hparts', hbuilt, rfl⟩ := query_ok_iff.mp h
  obtain rfl := Except.ok.inj (hparts.symm.trans hparts')
  have hsources : (built.setStatement sql).sources = built.sources := rfl
  rw [Query.sortsAs_congr hsources (Query.expanded_congr hsources rfl)]
  exact Fragments.build_sortsAs hbuilt

/-- **Sorting again.** Where the text of a query that was read can be read and yields a query with
the same tables and columns, this query is sorted by the same exactly when each criterion that is
written as a name is found again as what it was written for. This is so whenever the tables are
apart. -/
theorem reread_ordering_iff (hdialect : reader.dialect = .ansi)
    (hreserved : reader.reserved.IsComplete) (h : reader.query sql = .ok q)
    (hlegible : q.Legible reader.reserved) (h' : reader.query (reader.render q) = .ok q')
    (halike : q.Alike q') :
    (q'.ordering = q.ordering ↔ ∀ key ∈ q.ordering, q.KeepsTarget key.target) ∧
      (q.Apart → q'.ordering = q.ordering) := by
  obtain ⟨first, -, hfirst, -, -⟩ := query_ok_iff.mp h
  obtain ⟨parts, hparts, hwritten⟩ := parts_of_render hdialect hreserved h hlegible
  have hkeys := sortsAs_of_query h hfirst
  have hkeys' := sortsAs_of_query h' hparts
  rw [Query.sortsAs_congr halike.sources halike.expanded] at hkeys'
  have hiff := Query.sortsAs_written_iff hkeys (parts?_counts hfirst).2 hwritten.ordering hkeys'
  refine ⟨hiff, fun hapart => hiff.mpr fun key hkey => ?_⟩
  obtain ⟨item, -, hitem⟩ := exists_left_of_forall₂ hkeys hkey
  exact hapart.keepsTarget (query_wellFormed h).columns hitem.1

theorem reread_ordering_ledger :
    ledgerReader.dialect = .ansi ∧ ledgerReader.reserved.IsComplete ∧
      ∃ q, ledgerReader.query ledgerStatement = .ok q ∧ q.Legible ledgerReader.reserved ∧
        ∃ q', ledgerReader.query (ledgerReader.render q) = .ok q' ∧ q.Alike q' ∧
          q.ordering = [⟨.column 2, true⟩, ⟨.number 1, false⟩, ⟨.field 0 "owner", true⟩] ∧
            q'.ordering = q.ordering := by
  have hreserved : ledgerReader.reserved.IsComplete := fun _ h => h
  obtain ⟨q, h, hall⟩ := Except.exists_of_toOption_map (x := ledgerReader.query ledgerStatement)
    (f := fun q => decide ((q.Legible ledgerReader.reserved ∧ q.NamesKeep ledgerReader.catalog) ∧
      q.Apart ∧ q.ordering = [⟨.column 2, true⟩, ⟨.number 1, false⟩, ⟨.field 0 "owner", true⟩]))
    (b := true) (by decide +kernel)
  obtain ⟨⟨hlegible, hkeep⟩, hapart, hordering⟩ := of_decide_eq_true hall
  obtain ⟨parts, hparts, hwritten⟩ := parts_of_render rfl hreserved h hlegible
  obtain ⟨q', h', halike⟩ := (reread_iff h hparts hwritten).mpr hkeep
  exact ⟨rfl, hreserved, q, h, hlegible, q', h', halike, hordering,
    (reread_ordering_iff rfl hreserved h hlegible h' halike).2 hapart⟩

/-- The two queries of a statement, where both readings succeed. -/
lemma exists_orderings {keys keys' : List SortKey}
    (h : ((reader.query sql).toOption.bind fun q =>
      (reader.query (reader.render q)).toOption.map fun q' => (q.ordering, q'.ordering)) =
        some (keys, keys')) :
    ∃ q q', reader.query sql = .ok q ∧ reader.query (reader.render q) = .ok q' ∧
      q.ordering = keys ∧ q'.ordering = keys' := by
  cases hq : reader.query sql with
  | error e => simp [hq, Except.toOption] at h
  | ok q =>
    cases hq' : reader.query (reader.render q) with
    | error e => simp [hq, hq', Except.toOption] at h
    | ok q' =>
      simp only [hq, hq', Except.toOption, Option.bind_some, Option.map_some, Option.some.injEq,
        Prod.mk.injEq] at h
      exact ⟨q, q', rfl, hq', h.1, h.2⟩

/-- Where two tables go by one key, the name of a field is written without it and may be taken for
the alias of a column. An expression without an alias is written as it is, and may be taken for the
number of a column. -/
theorem sorting_astray :
    (∃ q q', ledgerReader.query
        "SELECT 1 AS owner, id FROM accounts, accounts ORDER BY accounts.owner" = .ok q ∧
      ledgerReader.query (ledgerReader.render q) = .ok q' ∧
        q.ordering = [⟨.field 0 "owner", true⟩] ∧ q'.ordering = [⟨.column 0, true⟩]) ∧
    ∃ q q', ledgerReader.query "SELECT 2, owner FROM accounts ORDER BY expr1" = .ok q ∧
      ledgerReader.query (ledgerReader.render q) = .ok q' ∧
        q.ordering = [⟨.column 0, true⟩] ∧ q'.ordering = [⟨.number 1, true⟩] := by
  exact ⟨exists_orderings (by decide +kernel), exists_orderings (by decide +kernel)⟩

end Reader

end SelectBinding
