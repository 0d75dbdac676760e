import SelectBinding.Proofs.Sql.Running

/-!
What is read stands where tokens stand.

A parser takes the places in what it reads from the tokens, and it leaves no tokens but those that
were there. So whatever holds of the places of all tokens holds of the places in what is read from
them. This is shown parser by parser, along the parsers each of them is put together of.
-/

namespace SelectBinding.Sql

/-- A set of places; what stands nowhere is in it. -/
structure Region where
  Holds : Location → Prop
  nowhere : Holds .nowhere

instance : Membership Location Region :=
  ⟨fun region place => region.Holds place⟩

lemma Region.nowhere_mem (region : Region) : Location.nowhere ∈ region :=
  region.nowhere

/-- Every place. -/
def everywhere : Region :=
  ⟨fun _ => True, trivial⟩

namespace Parser

variable {α β : Type} {G : Region}

/-- What the parser reads from tokens that stand in the region satisfies `post`. -/
def Yields (G : Region) (p : Parser α) (post : α → Prop) : Prop :=
  ∀ c ls a rest, (∀ t ∈ ls, t.place ∈ G) → p c ls = .ok (a, rest) → post a

namespace Yields

variable {p : Parser α} {f : α → Parser β} {post : α → Prop} {post' : β → Prop}

protected lemma mono (h : Yields G p post) {weaker : α → Prop} (himp : ∀ a, post a → weaker a) :
    Yields G p weaker :=
  fun c ls a rest hls hrun => himp a (h c ls a rest hls hrun)

protected lemma anything : Yields G p fun _ => True :=
  fun _ _ _ _ _ _ => trivial

protected lemma pure {a : α} (h : post a) : Yields G (pure a) post := by
  rintro c ls _ rest - ⟨⟩
  exact h

/-- What is read later is read from tokens that were there from the start. -/
protected lemma bind (h : Yields G p post) (hf : ∀ a, post a → Yields G (f a) post') :
    Yields G (p >>= f) post' := by
  intro c ls b rest hls hrun
  rw [run_bind] at hrun
  split at hrun
  · next a left ha =>
    have hleft : ∀ t ∈ left, t.place ∈ G := fun t ht => hls t ((p.rest_suffix ha).subset ht)
    exact hf a (h c ls a left hls ha) c left b rest hleft hrun
  · cases hrun

/-- What is read first does not matter. -/
protected lemma seq (hf : ∀ a, Yields G (f a) post') : Yields G (p >>= f) post' :=
  Yields.anything.bind fun a _ => hf a

protected lemma map {g : α → β} (h : Yields G p fun a => post' (g a)) : Yields G (g <$> p) post' :=
  h.bind (f := fun a => pure (g a)) fun _ ha => .pure ha

protected lemma some (h : Yields G p post) :
    Yields G (some <$> p) fun found => ∀ a ∈ found, post a :=
  .map (h.mono fun a ha => by simpa using ha)

protected lemma none : Yields G (pure none) fun found => ∀ a ∈ found, post a :=
  .pure (by simp)

protected lemma just {a : α} (h : post a) :
    Yields G (pure (some a)) fun found => ∀ a ∈ found, post a :=
  .pure (by simpa using h)

protected lemma ite {b : Prop} [Decidable b] {q : Parser α} (h : Yields G p post)
    (hq : Yields G q post) : Yields G (if b then p else q) post := by
  split <;> assumption

protected lemma failWith {failure : Failure} : Yields G (failWith failure) post :=
  fun _ _ _ _ _ hrun => by cases hrun

protected lemma failAt {text : String} {place : Location} : Yields G (failAt text place) post :=
  .failWith

protected lemma fail {text : String} : Yields G (fail text) post :=
  .failWith

protected lemma expected {wanted : String} {got : Located} : Yields G (expected wanted got) post :=
  .failWith

/-! ### Tokens -/

protected lemma peekAt {index : Nat} : Yields G (peekAt index) (·.place ∈ G) := by
  intro c ls t rest hls hrun
  obtain ⟨rfl, -⟩ := Prod.mk.inj (Except.ok.inj (run_peekAt index ▸ hrun))
  cases h : ls[index]? with
  | none => exact G.nowhere_mem
  | some t => exact hls t (List.mem_of_getElem? h)

protected lemma peek : Yields G peek (·.place ∈ G) :=
  .peekAt

protected lemma next : Yields G next (·.place ∈ G) := by
  intro c ls t rest hls hrun
  cases ls with
  | nil =>
    cases hrun
    exact G.nowhere_mem
  | cons first others =>
    cases hrun
    exact hls t (by simp)

/-! ### Choices -/

protected lemma maybe (h : Yields G p post) : Yields G (maybe p) fun found => ∀ a ∈ found, post a := by
  intro c ls found rest hls hrun
  simp only [Parser.maybe] at hrun
  split at hrun
  · next a left ha =>
    cases hrun
    rintro _ ⟨⟩
    exact h c ls a rest hls ha
  · split at hrun <;> cases hrun
    simp

protected lemma attempt (h : Yields G p post) :
    Yields G (attempt p) fun found => ∀ a, found = .ok a → post a := by
  intro c ls found rest hls hrun
  simp only [Parser.attempt] at hrun
  split at hrun
  · next a left ha =>
    cases hrun
    rintro _ ⟨⟩
    exact h c ls a rest hls ha
  · cases hrun
    simp

protected lemma lookFor {p : Parser (Option α)} (h : Yields G p fun found => ∀ a ∈ found, post a) :
    Yields G (lookFor p) fun found => ∀ a ∈ found, post a := by
  intro c ls found rest hls hrun
  simp only [Parser.lookFor] at hrun
  split at hrun
  · next a left ha =>
    cases hrun
    exact h c ls (some a) rest hls ha
  · cases hrun
    simp
  · cases hrun

/-! ### Repetitions -/

protected lemma steps {step : α → Parser (Option α)}
    (hstep : ∀ a, post a → Yields G (step a) fun next => ∀ b ∈ next, post b) (limit : Nat) {a : α}
    (ha : post a) : Yields G (steps step limit a) post := by
  induction limit generalizing a with
  | zero => exact .pure ha
  | succ limit ih =>
    refine (hstep a ha).bind fun found hfound => ?_
    cases found with
    | none => exact .pure ha
    | some b => exact ih (hfound b rfl)

/-- What holds at first and after every step holds in the end. -/
protected lemma repeatedly {step : α → Parser (Option α)}
    (hstep : ∀ a, post a → Yields G (step a) fun next => ∀ b ∈ next, post b) {a : α}
    (ha : post a) : Yields G (repeatedly step a) post :=
  .seq fun _ => .steps hstep _ ha

protected lemma many {more : Parser Bool} (h : Yields G p post) :
    Yields G (many more p) fun found => ∀ a ∈ found, post a := by
  have hstep (found : List α) (hfound : ∀ a ∈ found, post a) :
      Yields G (do if ← more then return some ((← p) :: found) else return none)
        fun next => ∀ found ∈ next, ∀ a ∈ found, post a := by
    refine .seq fun taken => .ite (h.bind fun a ha => .just ?_) .none
    exact List.forall_mem_cons.mpr ⟨ha, hfound⟩
  refine (Yields.repeatedly hstep (by simp)).bind fun found hfound => .pure ?_
  simpa using hfound

/-- There is something before the first comma. -/
protected lemma listed (h : Yields G p post) :
    Yields G (commaSeparated p) fun found => found ≠ [] ∧ ∀ a ∈ found, post a :=
  h.bind fun _ hfirst => h.many.bind fun _ hrest =>
    .pure ⟨by simp, List.forall_mem_cons.mpr ⟨hfirst, hrest⟩⟩

protected lemma commaSeparated (h : Yields G p post) :
    Yields G (commaSeparated p) fun found => ∀ a ∈ found, post a :=
  h.listed.mono fun _ hfound => hfound.2

protected lemma commaSeparatedUpTo {closing : String} (h : Yields G p post) :
    Yields G (commaSeparatedUpTo closing p) fun found => ∀ a ∈ found, post a :=
  .seq fun _ => .ite (.pure (by simp)) h.commaSeparated

protected lemma parenthesized (h : Yields G p post) : Yields G (parenthesized p) post :=
  .seq fun _ => h.bind fun _ ha => .seq fun _ => .pure ha

protected lemma afterKeyword {word : String} (h : Yields G p post) :
    Yields G (afterKeyword word p) fun found => ∀ a ∈ found, post a :=
  .seq fun _ => .ite (h.bind fun _ ha => .just ha) .none

end Yields

end Parser

end SelectBinding.Sql
