import SelectBinding.Proofs.Sql.Spending

/-!
The criteria of a sorting, each with the tokens it is read from.

What stands between two commas is looked for among the tokens, by counting parentheses. A name or a
number has none of these signs in it, so the items that are found are the criteria themselves.
-/

namespace SelectBinding.Sql

open Sql.Parser

/-- Of tokens without seams the first one begins an item, and the others go on with it. -/
lemma Seamless.itemOffsets {text : StatementText} {used : List Located} (h : Seamless used)
    (hne : used ≠ []) (rest : List Located) :
    StatementText.itemOffsets 0 true ((used ++ rest).map text.entry) =
      (text.entry (front used)).2 :: StatementText.itemOffsets 0 false (rest.map text.entry) := by
  obtain ⟨first, more, rfl⟩ := List.exists_cons_of_ne_nil hne
  obtain ⟨hfirst, hmore⟩ := List.forall_mem_cons.mp h
  have hparts : ∀ e ∈ more.map text.entry, StatementText.IsPart e.1 := by
    simpa [StatementText.entry] using hmore
  rw [List.cons_append, List.map_cons, List.map_append]
  refine (StatementText.itemOffsets_part hfirst true _ _).trans ?_
  rw [StatementText.itemOffsets_parts hparts]
  rfl

namespace Parser

variable {α : Type} {c : Context} {p : Parser α}

/-- Going from one list of tokens to another, items are read with commas between them, each of them
from the tokens that it is paired with. -/
inductive ReadsItems (c : Context) (p : Parser α) :
    List Located → List (List Located × α) → List Located → Prop where
  | last {used rest : List Located} {a : α} (h : p c (used ++ rest) = .ok (a, rest)) :
      ReadsItems c p (used ++ rest) [(used, a)] rest
  | more {used ls rest : List Located} {comma : Located} {a : α} {items : List (List Located × α)}
      (h : p c (used ++ comma :: ls) = .ok (a, comma :: ls)) (hcomma : comma.token = .sign ",")
      (hmore : ReadsItems c p ls items rest) :
      ReadsItems c p (used ++ comma :: ls) ((used, a) :: items) rest

/-- Going from one list of tokens to another, items are read with a comma before each of them. -/
def Follow (c : Context) (p : Parser α) (ls : List Located) (as : List α) (rest : List Located) :
    Prop :=
  as = [] ∧ ls = rest ∨ ∃ comma ls' items, ls = comma :: ls' ∧ comma.token = .sign "," ∧
    ReadsItems c p ls' items rest ∧ items.map Prod.snd = as

/-- An item and those that follow it are a list. -/
lemma Follow.items {ls ls' rest : List Located} {a : α} {as : List α}
    (h : Follow c p ls' as rest) (hp : p c ls = .ok (a, ls')) :
    ∃ items, ReadsItems c p ls items rest ∧ items.map Prod.snd = a :: as := by
  obtain ⟨used, rfl⟩ := p.rest_suffix hp
  rcases h with ⟨rfl, rfl⟩ | ⟨comma, ls', items, rfl, hcomma, hitems, rfl⟩
  · exact ⟨_, .last hp, rfl⟩
  · exact ⟨_, .more hp hcomma hitems, rfl⟩

lemma steps_follow {limit : Nat} {found result : List α} {ls rest : List Located}
    (h : steps (fun found => do if ← sign "," then return some ((← p) :: found) else return none)
      limit found c ls = .ok (result, rest)) :
    ∃ as, result = as.reverse ++ found ∧ Follow c p ls as rest := by
  induction limit generalizing found ls with
  | zero =>
    cases h
    exact ⟨[], rfl, .inl ⟨rfl, rfl⟩⟩
  | succ limit ih =>
    obtain ⟨next, left, hstep, hsteps⟩ := bind_ok h
    obtain ⟨there, ls', hsign, hitem⟩ := bind_ok hstep
    obtain ⟨used, rfl, hused⟩ := (Spends.sign ",").split hsign
    rcases hused with ⟨rfl, comma, rfl, hcomma⟩ | ⟨rfl, rfl⟩
    · obtain ⟨a, left', ha, hfound⟩ := bind_ok hitem
      cases hfound
      obtain ⟨as, rfl, hfollow⟩ := ih hsteps
      obtain ⟨items, hitems, hmap⟩ := hfollow.items ha
      exact ⟨a :: as, by simp, .inr ⟨comma, ls', items, rfl, hcomma, hitems, hmap⟩⟩
    · cases hitem
      cases hsteps
      exact ⟨[], rfl, .inl ⟨rfl, rfl⟩⟩

/-- **Lists.** What is read with commas between was read item by item. -/
lemma commaSeparated_items {ls rest : List Located} {as : List α}
    (h : commaSeparated p c ls = .ok (as, rest)) :
    ∃ items, ReadsItems c p ls items rest ∧ items.map Prod.snd = as := by
  obtain ⟨first, left, hfirst, hmany⟩ := bind_ok h
  obtain ⟨more, left', hmore, hfound⟩ := bind_ok hmany
  cases hfound
  obtain ⟨found, left, hsteps, hreverse⟩ := bind_ok hmore
  cases hreverse
  obtain ⟨limit, ls', hlimit, hsteps⟩ := bind_ok hsteps
  cases hlimit
  obtain ⟨as, rfl, hfollow⟩ := steps_follow hsteps
  exact Follow.items (by simpa using hfollow) hfirst

namespace ReadsItems

variable {ls rest : List Located} {items : List (List Located × α)}

/-- What holds of all that is read holds of every item and the tokens that it is read from. -/
lemma spends {post : List Located → α → Prop} (h : ReadsItems c p ls items rest)
    (hp : Spends p post) : ∀ item ∈ items, post item.1 item.2 := by
  induction h with
  | last h => simpa using hp _ c _ _ _ rfl h
  | more h _ _ ih => exact List.forall_mem_cons.mpr ⟨hp _ c _ _ _ rfl h, ih⟩

/-- The tokens of the items are among those that are gone through. -/
lemma subset (h : ReadsItems c p ls items rest) : ∀ item ∈ items, item.1 ⊆ ls := by
  induction h with
  | last h => simp
  | more h _ _ ih =>
    refine List.forall_mem_cons.mpr ⟨by simp, fun item hitem t ht => ?_⟩
    exact List.mem_append_right _ (List.mem_cons_of_mem _ (ih item hitem ht))

/-- **Items.** Items without seams are found where their first tokens stand. -/
lemma itemOffsets {text : StatementText} (h : ReadsItems c p ls items rest)
    (hitems : ∀ item ∈ items, item.1 ≠ [] ∧ Seamless item.1) :
    ∃ tail, StatementText.itemOffsets 0 true (ls.map text.entry) =
      items.map (fun item => (text.entry (front item.1)).2) ++ tail := by
  induction h with
  | last h =>
    obtain ⟨⟨hne, hseamless⟩, -⟩ := List.forall_mem_cons.mp hitems
    exact ⟨_, hseamless.itemOffsets hne _⟩
  | @more used ls rest comma a items h hcomma _ ih =>
    obtain ⟨⟨hne, hseamless⟩, hrest⟩ := List.forall_mem_cons.mp hitems
    obtain ⟨tail, htail⟩ := ih hrest
    have hentry : text.entry comma = (.sign ",", (text.entry comma).2) := Prod.ext hcomma rfl
    refine ⟨tail, ?_⟩
    rw [hseamless.itemOffsets hne, List.map_cons, hentry, StatementText.itemOffsets_comma, htail]
    rfl

end ReadsItems

end Parser

end SelectBinding.Sql
