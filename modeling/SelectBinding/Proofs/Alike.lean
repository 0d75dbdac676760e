import SelectBinding.Diagnostic
import SelectBinding.Proofs.Outcome

/-!
Two computations side by side.

They are alike when both of them succeed, with values that are related, or both of them fail, with
errors that are related.
-/

namespace SelectBinding

/-- Both computations give values that are related by `R`, or both fail with errors that are related
by `E`. -/
inductive Except.Alike {ε ε' α β : Type} (E : ε → ε' → Prop) (R : α → β → Prop) :
    Except ε α → Except ε' β → Prop where
  | ok {a : α} {b : β} (h : R a b) : Alike E R (.ok a) (.ok b)
  | error {e : ε} {e' : ε'} (h : E e e') : Alike E R (.error e) (.error e')

namespace Except.Alike

variable {ε ε' α α' β β' : Type} {E : ε → ε' → Prop} {R : α → β → Prop} {x : Except ε α}
  {y : Except ε' β}

/-- What two computations that are alike come to. -/
protected lemma cases (h : Alike E R x y) :
    (∃ a b, x = .ok a ∧ y = .ok b ∧ R a b) ∨
      ∃ e e', x = .error e ∧ y = .error e' ∧ E e e' := by
  cases h with
  | ok h => exact .inl ⟨_, _, rfl, rfl, h⟩
  | error h => exact .inr ⟨_, _, rfl, rfl, h⟩

protected lemma mono {E' : ε → ε' → Prop} {R' : α → β → Prop} (h : Alike E R x y)
    (hE : ∀ e e', E e e' → E' e e') (hR : ∀ a b, R a b → R' a b) : Alike E' R' x y := by
  cases h with
  | ok h => exact .ok (hR _ _ h)
  | error h => exact .error (hE _ _ h)

protected lemma map {f : α → α'} {g : β → β'} {R' : α' → β' → Prop}
    (h : Alike E (fun a b => R' (f a) (g b)) x y) : Alike E R' (x.map f) (y.map g) := by
  cases h with
  | ok h => exact .ok h
  | error h => exact .error h

protected lemma mapError {ε₁ ε₂ : Type} {f : ε → ε₁} {g : ε' → ε₂} {E' : ε₁ → ε₂ → Prop}
    (h : Alike (fun e e' => E' (f e) (g e')) R x y) :
    Alike E' R (x.mapError f) (y.mapError g) := by
  cases h with
  | ok h => exact .ok h
  | error h => exact .error h

end Except.Alike

/-- The errors have the same kind and the same place. -/
def Diagnostic.SamePlace (e e' : Diagnostic) : Prop :=
  e'.kind = e.kind ∧ e'.position = e.position

/-- The errors are the same but for their details. -/
def Diagnostic.SameMessage (e e' : Diagnostic) : Prop :=
  e' = { e with details := e'.details }

/-- The second computation gives the image of what the first one gives, or both fail with errors of
the same kind at the same place. -/
def Mirrors {α β : Type} (image : α → β) : Except Diagnostic α → Except Diagnostic β → Prop :=
  Except.Alike Diagnostic.SamePlace fun a b => b = image a

namespace Mirrors

variable {α β α' β' : Type} {image : α → β} {x : Except Diagnostic α} {y : Except Diagnostic β}

protected lemma ok (a : α) : Mirrors image (.ok a) (.ok (image a)) :=
  Except.Alike.ok rfl

protected lemma error {e e' : Diagnostic} (h : e.SamePlace e') :
    Mirrors image (.error e) (.error e') :=
  Except.Alike.error h

protected lemma cases (h : Mirrors image x y) :
    (∃ a, x = .ok a ∧ y = .ok (image a)) ∨
      ∃ e e', x = .error e ∧ y = .error e' ∧ e.SamePlace e' := by
  rcases Except.Alike.cases h with ⟨a, b, hx, hy, rfl⟩ | herror
  · exact .inl ⟨a, hx, hy⟩
  · exact .inr herror

protected lemma map {image' : α' → β'} {f : α → α'} {g : β → β'} (h : Mirrors image x y)
    (hfg : ∀ a, g (image a) = image' (f a)) : Mirrors image' (x.map f) (y.map g) :=
  Except.Alike.map (h.mono (fun _ _ => id) fun a b hb => by rw [hb, hfg])

/-- Two computations are alike when a third one mirrors both of them. -/
lemma alike {x' : Except Diagnostic α} (h : Mirrors image x y) (h' : Mirrors image x' y) :
    Except.Alike Diagnostic.SamePlace (fun a a' => image a = image a') x x' := by
  rcases h.cases with ⟨a, rfl, rfl⟩ | ⟨e, e₁, rfl, rfl, he⟩
  · rcases h'.cases with ⟨a', rfl, ha⟩ | ⟨e', e₂, -, he', -⟩
    · exact .ok (Except.ok.inj ha)
    · cases he'
  · rcases h'.cases with ⟨a', -, ha⟩ | ⟨e', e₂, rfl, he₂, he'⟩
    · cases ha
    · obtain rfl := Except.error.inj he₂
      exact .error ⟨he'.1.symm.trans he.1, he'.2.symm.trans he.2⟩

end Mirrors

end SelectBinding
