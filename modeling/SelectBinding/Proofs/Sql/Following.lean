import SelectBinding.Proofs.Sql.Words

/-!
What comes after a term.

What comes after a term decides where it ends, so everything about reading is said about tokens in
front of others, and about what these others begin with.
-/

namespace SelectBinding.Sql.Grammar

open Sql.Parser

/-- How tightly the operator binds that comes next. -/
def bindingAhead (ls : List Located) : Nat :=
  match nextBinding ansi ls with
  | .ok (binding, _) => binding
  | .error _ => 0

lemma run_nextBinding (ls : List Located) : nextBinding ansi ls = .ok (bindingAhead ls, ls) := by
  have hgroup : ∃ group, nextGroup .ansi ansi ls = .ok (group, ls) := by
    simp only [nextGroup, run_bind, run_peek, run_peekAt]
    cases (front ls).token <;> exact ⟨_, rfl⟩
  obtain ⟨group, hgroup⟩ := hgroup
  have hdialect : dialect ansi ls = .ok (.ansi, ls) := rfl
  simp only [bindingAhead, nextBinding, run_bind, hdialect, hgroup, run_pure]

lemma bindingAhead_eq {ls : List Located} {group : Option OperatorGroup}
    (h : nextGroup .ansi ansi ls = .ok (group, ls)) :
    bindingAhead ls = (group.map (·.binding .ansi)).getD 0 := by
  have hdialect : dialect ansi ls = .ok (.ansi, ls) := rfl
  simp only [bindingAhead, nextBinding, run_bind, hdialect, h, run_pure]

/-- The signs that would turn what is written into something else. -/
def untidySigns : List Token :=
  [.sign "[", .sign "=>", .sign ":="]

/-- None of these signs and no `ON` is among the tokens. -/
def Tidy (ls : List Located) : Prop :=
  ∀ l ∈ ls, l.token ∉ untidySigns ∧ l.token.isKeyword "ON" = false

lemma Tidy.noBracket {ls : List Located} (h : Tidy ls) : NoBracket ls := by
  intro l hl heq
  exact (h l hl).1 (by simp [heq, untidySigns])

lemma Tidy.append {ls ls' : List Located} (h : Tidy ls) (h' : Tidy ls') : Tidy (ls ++ ls') := by
  intro l hl
  rcases List.mem_append.mp hl with hl | hl
  · exact h l hl
  · exact h' l hl

lemma Tidy.left {ls ls' : List Located} (h : Tidy (ls ++ ls')) : Tidy ls :=
  fun l hl => h l (List.mem_append_left _ hl)

lemma Tidy.right {ls ls' : List Located} (h : Tidy (ls ++ ls')) : Tidy ls' :=
  fun l hl => h l (List.mem_append_right _ hl)

lemma Tidy.tail {l : Located} {ls : List Located} (h : Tidy (l :: ls)) : Tidy ls :=
  fun l' hl => h l' (List.mem_cons_of_mem _ hl)

lemma Tidy.front {ls : List Located} (h : Tidy ls) :
    (front ls).token ∉ untidySigns ∧ (front ls).token.isKeyword "ON" = false := by
  cases ls with
  | nil => exact ⟨by decide, rfl⟩
  | cons l ls => exact h l (by simp)

/-- Of words with `ON` in the second place there are none. -/
lemma Tidy.keywords {ls : List Located} (h : Tidy ls) (word word' : String) (c : Context) :
    Parser.keywords [word, "ON", word'] c ls = .ok (false, ls) := by
  rcases ls with _ | ⟨l, _ | ⟨l', ls⟩⟩
  · rfl
  · rfl
  · have hon := (h.tail l' (by simp)).2
    simp [Parser.keywords, hon]

/-- What comes after a term: something that ends it, with an operator that binds as tightly as
`next` says. -/
structure Before (next : Nat) (rest : List Located) : Prop where
  follower : (front rest).token ∈ followers
  binding : bindingAhead rest = next
  tidy : Tidy rest

/-- The tokens after a term that are no operators. -/
def closers : List Token :=
  [.finish, .sign ",", .sign ")", .word "AS" none, .word "FROM" none, .word "WHERE" none,
   .word "ORDER" none, .word "DESC" none]

lemma mem_followers_of_closer : ∀ t ∈ closers, t ∈ followers := by
  decide

lemma before_of_closer {rest : List Located} (h : (front rest).token ∈ closers) (ht : Tidy rest) :
    Before 0 rest := by
  have hgroup : nextGroup .ansi ansi rest = .ok (none, rest) := by
    simp only [closers, List.mem_cons, List.not_mem_nil, or_false] at h
    simp only [nextGroup, run_bind, run_peek, run_peekAt]
    rcases h with h | h | h | h | h | h | h | h <;> rw [h] <;> rfl
  exact ⟨mem_followers_of_closer _ h, bindingAhead_eq hgroup, ht⟩

namespace Before

variable {next : Nat} {rest : List Located}

lemma afterName (h : Before next rest) : AfterName rest :=
  List.mem_cons_of_mem _ h.follower

lemma sign (h : Before next rest) (spelling : String) (hs : ∀ t ∈ followers, t ≠ .sign spelling)
    (c : Context) : Parser.sign spelling c rest = .ok (false, rest) := by
  rw [run_sign, if_neg (hs _ h.follower)]

lemma oneOf (h : Before next rest) (words : List String)
    (hw : ∀ t ∈ followers, t.keyword?.filter words.contains = none) (c : Context) :
    Parser.oneOf words c rest = .ok (none, rest) := by
  rw [run_oneOf, hw _ h.follower]

lemma keywords (h : Before next rest) (word : String) {words : List String}
    (hw : ∀ t ∈ followers, t.isKeyword word = false) (c : Context) :
    Parser.keywords (word :: words) c rest = .ok (false, rest) :=
  run_keywords_of_not (hw _ h.follower)

lemma keyword (h : Before next rest) (word : String)
    (hw : ∀ t ∈ followers, t.isKeyword word = false) :
    (front rest).token.isKeyword word = false :=
  hw _ h.follower

end Before

end SelectBinding.Sql.Grammar
