import SelectBinding.Proofs.Build.Targets

/-!
Which item of a statement each part of a query comes from.

A query has one table for every item after `FROM`, one column for every column item and one key for
every sorting criterion, each at the place of its item. What a criterion sorts by is looked up in
the tables and the columns, so no criterion matters to another one.
-/

namespace SelectBinding

/-- The tables and the columns of a query, without its filter and its sorting. -/
def Query.listed (q : Query) : Query :=
  { sources := q.sources, columns := q.columns }

/-- The clauses of a statement whose sorting criteria are handed over the last one first, which is
how a grammar reduces them. -/
def Clauses.ofReduced (filter : Option Expr) (reduced : List SortItem) : Clauses :=
  { filter, ordering := reduced.reverse }

namespace Fragments

variable {lookup? : Lookup} {parts : Fragments} {q : Query}

end Fragments

end SelectBinding
