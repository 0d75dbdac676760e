import Mathlib.Tactic.Lemma
import SelectBinding.Sql.Parser

/-!
Running parsers on lists of tokens.

What most parsers do next depends on the next token alone. Each parser of that kind is described by
what it returns and leaves, so running a parser that is put together of them is rewriting.
-/

namespace SelectBinding.Sql.Parser

/-- What parsers know in the ANSI dialect outside of hierarchies. -/
def ansi : Context :=
  { dialect := .ansi }

/-- The next token; after the last one, the end. -/
def front (ls : List Located) : Located :=
  (ls[0]?).getD finish

@[simp] lemma front_nil : front [] = finish := rfl
@[simp] lemma front_cons (l : Located) (ls : List Located) : front (l :: ls) = l := rfl

section Steps

variable {α β : Type} {c : Context} {ls : List Located}

lemma run_pure (a : α) : (pure a : Parser α) c ls = .ok (a, ls) := rfl

lemma run_bind (p : Parser α) (f : α → Parser β) :
    (p >>= f) c ls =
      match p c ls with
      | .ok (a, rest) => f a c rest
      | .error stop => .error stop := rfl

/-- After a parser that succeeds, the next one goes on with what it left. -/
lemma run_after {p : Parser α} {f : α → Parser β} {a : α} {rest : List Located}
    (h : p c ls = .ok (a, rest)) : (p >>= f) c ls = f a c rest := by
  rw [run_bind, h]

/-- The same where one of two parsers is chosen, and each branch goes on by itself. -/
lemma run_after_if {b : Bool} {p q : Parser α} {f : α → Parser β} {a : α} {rest : List Located}
    (h : (if b then p else q) c ls = .ok (a, rest)) :
    (if b then p >>= f else q >>= f) c ls = f a c rest := by
  cases b
  · exact run_after h
  · exact run_after h

lemma run_map (p : Parser α) (f : α → β) :
    (f <$> p) c ls =
      match p c ls with
      | .ok (a, rest) => .ok (f a, rest)
      | .error stop => .error stop := rfl

instance : LawfulMonad Parser :=
  LawfulMonad.mk' Parser
    (fun p => Parser.ext <| funext fun c => funext fun ls => by
      rw [run_map]
      cases p c ls <;> rfl)
    (fun _ _ => rfl)
    (fun p f g => Parser.ext <| funext fun c => funext fun ls => by
      simp only [run_bind]
      cases p c ls <;> rfl)

lemma run_ite (b : Prop) [Decidable b] (p q : Parser α) :
    (if b then p else q) c ls = if b then p c ls else q c ls := by
  split <;> rfl

lemma run_fail (text : String) :
    (fail text : Parser α) c ls = .error ⟨.message text .nowhere, ls⟩ := rfl

lemma run_expected (wanted : String) (got : Located) :
    (expected wanted got : Parser α) c ls =
      .error ⟨.unexpected wanted got.token.text got.place, ls⟩ := rfl

lemma run_dialect : dialect c ls = .ok (c.dialect, ls) := rfl

lemma run_dialectIn (dialects : List Dialect) :
    dialectIn dialects c ls = .ok (c.dialect.isOneOf dialects, ls) := rfl

lemma run_onlyIn (dialects : List Dialect) (question : Parser Bool) :
    onlyIn dialects question c ls =
      if c.dialect.isOneOf dialects then question c ls else .ok (false, ls) := by
  simp only [onlyIn, run_bind, run_dialectIn, run_ite, run_pure]

lemma run_peekAt (index : Nat) : peekAt index c ls = .ok ((ls[index]?).getD finish, ls) := rfl

lemma run_peek : peek c ls = .ok (front ls, ls) := rfl

lemma run_next : next c ls = .ok (front ls, ls.tail) := by
  cases ls <;> rfl

lemma run_remaining : remaining c ls = .ok (ls.length, ls) := rfl

lemma run_consume (token : Token) (h : token ≠ .finish) :
    consume token c ls = if (front ls).token = token then .ok (true, ls.tail)
      else .ok (false, ls) := by
  cases ls with
  | nil => simp [consume, readIf, finish, Ne.symm h]
  | cons l ls => rfl

lemma run_sign (spelling : String) :
    sign spelling c ls = if (front ls).token = .sign spelling then .ok (true, ls.tail)
      else .ok (false, ls) :=
  run_consume _ (by simp)

lemma run_peekSign (spelling : String) :
    peekSign spelling c ls = .ok ((front ls).token == .sign spelling, ls) := rfl

lemma run_peekKeyword (word : String) :
    peekKeyword word c ls = .ok ((front ls).token.isKeyword word, ls) := rfl

lemma run_keyword (word : String) :
    keyword word c ls = if (front ls).token.isKeyword word = true then .ok (true, ls.tail)
      else .ok (false, ls) := by
  cases ls with
  | nil => simp [keyword, readIf, finish, Token.isKeyword, Token.keyword?]
  | cons l ls => rfl

lemma run_oneOf (words : List String) :
    oneOf words c ls =
      match (front ls).token.keyword?.filter words.contains with
      | some word => .ok (some word, ls.tail)
      | none => .ok (none, ls) := by
  cases ls with
  | nil => rfl
  | cons l ls => rfl

/-- Several keywords are not there when the first one is not. -/
lemma run_keywords_of_not {word : String} {words : List String}
    (h : (front ls).token.isKeyword word = false) :
    keywords (word :: words) c ls = .ok (false, ls) := by
  cases ls with
  | nil => simp [keywords]
  | cons l ls =>
    simp only [front_cons] at h
    simp [keywords, h]

lemma run_expectSign (spelling : String) :
    expectSign spelling c ls =
      if (front ls).token = .sign spelling then .ok ((), ls.tail)
      else .error ⟨.unexpected spelling (front ls).token.text (front ls).place, ls⟩ := by
  by_cases h : (front ls).token = .sign spelling <;>
    simp [expectSign, run_bind, run_sign, h, run_peek, run_expected, run_pure]

lemma run_expectKeyword (word : String) :
    expectKeyword word c ls =
      if (front ls).token.isKeyword word = true then .ok ((), ls.tail)
      else .error ⟨.unexpected word (front ls).token.text (front ls).place, ls⟩ := by
  by_cases h : (front ls).token.isKeyword word = true <;>
    simp [expectKeyword, run_bind, run_keyword, h, run_peek, run_expected, run_pure]

lemma run_afterKeyword_of_not {word : String} {p : Parser α}
    (h : (front ls).token.isKeyword word = false) :
    afterKeyword word p c ls = .ok (none, ls) := by
  simp [afterKeyword, run_bind, run_keyword, h, run_pure]

/-- A step that is not taken ends the repetition. -/
lemma run_repeatedly_of_none {step : α → Parser (Option α)} {a : α}
    (h : step a c ls = .ok (none, ls)) : repeatedly step a c ls = .ok (a, ls) := by
  simp [repeatedly, steps, run_bind, run_remaining, h, run_pure]

lemma run_many_of_not {more : Parser Bool} {p : Parser α} (h : more c ls = .ok (false, ls)) :
    many more p c ls = .ok ([], ls) := by
  have hnone : repeatedly (fun found => do
      if ← more then return some ((← p) :: found) else return none) ([] : List α) c ls =
        .ok ([], ls) :=
    run_repeatedly_of_none (by simp only [run_bind, h]; rfl)
  simp only [many, run_bind, hnone]
  rfl

lemma run_maybe_of_error {p : Parser α} {stop : Stop} (h : p c ls = .error stop)
    (hdeep : stop.failure ≠ .tooDeep) : maybe p c ls = .ok (none, ls) := by
  simp [maybe, h, hdeep]

/-! ### Repetitions -/

/-- Taking step after step leads from what was read so far to the result, each step reading
something. -/
inductive Runs (c : Context) (step : α → Parser (Option α)) :
    α → List Located → α → List Located → Prop where
  | done {a : α} {ls : List Located} (h : step a c ls = .ok (none, ls)) : Runs c step a ls a ls
  | more {a a' b : α} {ls ls' rest : List Located} (h : step a c ls = .ok (some a', ls'))
      (hlt : ls'.length < ls.length) (hmore : Runs c step a' ls' b rest) : Runs c step a ls b rest

lemma Runs.steps {step : α → Parser (Option α)} {a b : α} {ls rest : List Located}
    (h : Runs c step a ls b rest) {limit : Nat} (hlimit : ls.length < limit) :
    Parser.steps step limit a c ls = .ok (b, rest) := by
  induction h generalizing limit with
  | done h =>
    obtain ⟨limit, rfl⟩ : ∃ n, limit = n + 1 := ⟨limit - 1, by omega⟩
    simp only [Parser.steps, run_bind, h]
    rfl
  | more h hlt _ ih =>
    obtain ⟨limit, rfl⟩ : ∃ n, limit = n + 1 := ⟨limit - 1, by omega⟩
    simp only [Parser.steps, run_bind, h]
    exact ih (by omega)

lemma Runs.repeatedly {step : α → Parser (Option α)} {a b : α} {ls rest : List Located}
    (h : Runs c step a ls b rest) : Parser.repeatedly step a c ls = .ok (b, rest) := by
  simp only [Parser.repeatedly, run_bind, run_remaining]
  exact h.steps (Nat.lt_succ_self _)

/-- Reading one thing after another, each of them after a sign. -/
inductive RunsMany (c : Context) (more : Parser Bool) (p : Parser α) :
    List Located → List α → List Located → Prop where
  | done {ls : List Located} (h : more c ls = .ok (false, ls)) : RunsMany c more p ls [] ls
  | more {a : α} {as : List α} {ls ls' ls'' rest : List Located} (h : more c ls = .ok (true, ls'))
      (hp : p c ls' = .ok (a, ls'')) (hlt : ls''.length < ls.length)
      (hmore : RunsMany c more p ls'' as rest) : RunsMany c more p ls (a :: as) rest

lemma RunsMany.many {more : Parser Bool} {p : Parser α} {as : List α} {ls rest : List Located}
    (h : RunsMany c more p ls as rest) : Parser.many more p c ls = .ok (as, rest) := by
  have hruns (found : List α) : Runs c (fun found => do
      if ← more then return some ((← p) :: found) else return none) found ls
        (as.reverse ++ found) rest := by
    induction h generalizing found with
    | done h => exact .done (by simp only [run_bind, h]; rfl)
    | @more a as ls ls' ls'' rest h hp hlt _ ih =>
      have hstep := ih (a :: found)
      refine .more ?_ hlt (by simpa using hstep)
      simp only [run_bind, h, if_true, hp]
      rfl
  simp only [Parser.many, run_bind, (hruns []).repeatedly]
  simp [run_pure]

lemma run_commaSeparated {p : Parser α} {a : α} {as : List α} {ls ls' rest : List Located}
    (h : p c ls = .ok (a, ls')) (hmore : RunsMany c (sign ",") p ls' as rest) :
    commaSeparated p c ls = .ok (a :: as, rest) := by
  simp only [commaSeparated, run_bind, h, hmore.many]
  rfl

end Steps

end SelectBinding.Sql.Parser
