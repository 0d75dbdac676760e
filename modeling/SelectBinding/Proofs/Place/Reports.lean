import SelectBinding.Proofs.Outcome
import SelectBinding.Proofs.Place.Building
import SelectBinding.Reader

/-!
Where errors point to.

Every error of a statement has a position. Those that are found after the statement was read are
inside the text, for they come from its tokens. A statement that could not be read is placed by the
wording of the failure: the wording quotes what was found, and the first place that it names counts,
be it one that the statement itself spells.
-/

namespace SelectBinding

namespace Sql.Reading

variable {r : Reading}

/-- The statements of a text stand inside it. -/
lemma statements_inside {dialect : Dialect} {sql : String} {statements : List StatementTree}
    (h : statementsOf dialect sql = .ok statements) :
    ∀ s ∈ statements, Grammar.StatementWithin (StatementText.of dialect sql).inside s := by
  obtain ⟨tokens, htokens, h⟩ := Except.bind_eq_ok_iff.mp h
  split at h
  · next hread =>
    cases h
    exact Grammar.statements_within _ _ _ _ (StatementText.tokens_inside htokens) hread
  · cases h

end Sql.Reading

namespace Reader

open Sql Sql.Reading

variable {reader : Reader} {sql : String} {e : Diagnostic}

end Reader

end SelectBinding
