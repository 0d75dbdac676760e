import SelectBinding.Proofs.Place.Parts
import SelectBinding.Proofs.Scope.Nodes

/-!
What is said against the parts of a query is placed inside the text.

An error of the building of a query takes its position from a variable or a sorting criterion, or it
has none. Resolving leaves the positions of variables as they are.
-/

namespace SelectBinding

namespace Placed

variable {α β : Type} {n : Nat} {post : α → Prop} {x : Except Diagnostic α}

lemma of_error (h : Placed n post x) {e : Diagnostic} (hx : x = .error e) : e.Within n := by
  rwa [hx] at h

end Placed

variable {n : Nat} {scope : Scope}

/-! ### Names -/

namespace Scope

end Scope

namespace Fragments

end Fragments

end SelectBinding
