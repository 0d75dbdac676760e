import Mathlib.Tactic.Lemma
import SelectBinding.Sql.Tokenizer

/-!
The tokens of a text that is put together of pieces.

A piece of a text spells tokens when it does so before everything that may follow it. Pieces are
put together as long as each of them may be followed by the next one, so the tokens of a whole text
are those of its pieces.
-/

namespace SelectBinding.Sql.Tokenizer

/-- The characters have the tokens, whatever the places of these are. -/
inductive Lexes (dialect : Dialect) : List Char → List Token → Prop where
  | nil : Lexes dialect [] []
  | blank {c : Char} {rest rest' : List Char} {tokens : List Token}
      (hstep : step dialect c rest = .ok (none, rest')) (hle : rest'.length ≤ rest.length)
      (hmore : Lexes dialect rest' tokens) : Lexes dialect (c :: rest) tokens
  | token {c : Char} {rest rest' : List Char} {token : Token} {tokens : List Token}
      (hstep : step dialect c rest = .ok (some token, rest')) (hle : rest'.length ≤ rest.length)
      (hmore : Lexes dialect rest' tokens) : Lexes dialect (c :: rest) (token :: tokens)

variable {dialect : Dialect}

/-- **One step.** The tokens of some characters are the one at their front, where there is one, and
the tokens of what is left behind it. -/
lemma tokensFrom_cons_ok_iff {steps : Nat} {place : Location} {c : Char} {rest : List Char}
    {located : List Located} :
    tokensFrom dialect (steps + 1) place (c :: rest) = .ok located ↔
      ∃ front rest' more, step dialect c rest = .ok (front, rest') ∧
        tokensFrom dialect steps (placeAt place (c :: rest) rest') rest' = .ok more ∧
        located = (front.map (⟨·, place⟩)).toList ++ more := by
  rw [tokensFrom]
  constructor
  · intro h
    split at h
    · cases h
    next front rest' hstep =>
      split at h
      · cases h
      next more hmore =>
        refine ⟨front, rest', more, hstep, hmore, ?_⟩
        cases front <;> exact (Except.ok.inj h).symm
  · rintro ⟨front, rest', more, hstep, hmore, rfl⟩
    simp only [hstep, hmore]
    cases front <;> rfl

lemma Lexes.tokensFrom {cs : List Char} {tokens : List Token} (h : Lexes dialect cs tokens)
    (steps : Nat) (hsteps : cs.length ≤ steps) (place : Location) :
    ∃ located, tokensFrom dialect steps place cs = .ok located ∧
      located.map Located.token = tokens := by
  induction h generalizing steps place with
  | nil => exact ⟨[], by cases steps <;> rfl, rfl⟩
  | @blank c rest rest' tokens hstep hle _ ih =>
    obtain ⟨steps, rfl⟩ : ∃ n, steps = n + 1 := ⟨steps - 1, by simp at hsteps; omega⟩
    obtain ⟨located, hmore, hmap⟩ := ih steps (by simp at hsteps; omega)
      (placeAt place (c :: rest) rest')
    exact ⟨located, tokensFrom_cons_ok_iff.mpr ⟨_, _, _, hstep, hmore, rfl⟩, hmap⟩
  | @token c rest rest' token tokens hstep hle _ ih =>
    obtain ⟨steps, rfl⟩ : ∃ n, steps = n + 1 := ⟨steps - 1, by simp at hsteps; omega⟩
    obtain ⟨located, hmore, hmap⟩ := ih steps (by simp at hsteps; omega)
      (placeAt place (c :: rest) rest')
    exact ⟨⟨token, place⟩ :: located, tokensFrom_cons_ok_iff.mpr ⟨_, _, _, hstep, hmore, rfl⟩,
      by simp [hmap]⟩

/-- **Tokens.** A text whose characters have tokens is made of them. -/
lemma Lexes.tokenize {sql : String} {tokens : List Token} (h : Lexes dialect sql.toList tokens) :
    ∃ located, tokenize dialect sql = .ok located ∧ located.map Located.token = tokens :=
  h.tokensFrom _ (Nat.le_refl _) .start

/-! ### The beginning of a text -/

/-- The characters begin with the tokens, and `rest` is left after them. -/
inductive Scans (dialect : Dialect) : List Char → List Token → List Char → Prop where
  | done {rest : List Char} : Scans dialect rest [] rest
  | blank {c : Char} {cs cs' rest : List Char} {tokens : List Token}
      (hstep : step dialect c cs = .ok (none, cs')) (hle : cs'.length ≤ cs.length)
      (hmore : Scans dialect cs' tokens rest) : Scans dialect (c :: cs) tokens rest
  | token {c : Char} {cs cs' rest : List Char} {token : Token} {tokens : List Token}
      (hstep : step dialect c cs = .ok (some token, cs')) (hle : cs'.length ≤ cs.length)
      (hmore : Scans dialect cs' tokens rest) : Scans dialect (c :: cs) (token :: tokens) rest

namespace Scans

variable {cs rest : List Char} {tokens : List Token}

/-- Whatever tokens there are, these are the first of them. -/
lemma tokensFrom (h : Scans dialect cs tokens rest) {steps : Nat} (hsteps : cs.length ≤ steps)
    {place : Location} {located : List Located}
    (hlocated : tokensFrom dialect steps place cs = .ok located) :
    tokens <+: located.map Located.token := by
  induction h generalizing steps place located with
  | done => exact List.nil_prefix
  | @blank c cs cs' rest tokens hstep hle _ ih =>
    obtain ⟨steps, rfl⟩ : ∃ n, steps = n + 1 := ⟨steps - 1, by simp at hsteps; omega⟩
    obtain ⟨front, rest', more, hstep', hmore, rfl⟩ := tokensFrom_cons_ok_iff.mp hlocated
    obtain ⟨rfl, rfl⟩ := Prod.mk.inj (Except.ok.inj (hstep.symm.trans hstep'))
    exact ih (by simp at hsteps; omega) hmore
  | @token c cs cs' rest token tokens hstep hle _ ih =>
    obtain ⟨steps, rfl⟩ : ∃ n, steps = n + 1 := ⟨steps - 1, by simp at hsteps; omega⟩
    obtain ⟨front, rest', more, hstep', hmore, rfl⟩ := tokensFrom_cons_ok_iff.mp hlocated
    obtain ⟨rfl, rfl⟩ := Prod.mk.inj (Except.ok.inj (hstep.symm.trans hstep'))
    exact List.cons_prefix_cons.mpr ⟨rfl, ih (by simp at hsteps; omega) hmore⟩

lemma tokenize {sql : String} (h : Scans dialect sql.toList tokens rest) {located : List Located}
    (hlocated : tokenize dialect sql = .ok located) : tokens <+: located.map Located.token :=
  h.tokensFrom (Nat.le_refl _) hlocated

lemma trans {cs' : List Char} {tokens' : List Token} (h : Scans dialect cs tokens cs')
    (h' : Scans dialect cs' tokens' rest) : Scans dialect cs (tokens ++ tokens') rest := by
  induction h with
  | done => exact h'
  | blank hstep hle _ ih => exact .blank hstep hle (ih h')
  | token hstep hle _ ih => exact .token hstep hle (ih h')

/-- The tokens of the whole text are these and those of what is left. -/
lemma lexes (h : Scans dialect cs tokens rest) {more : List Token} (hrest : Lexes dialect rest more) :
    Lexes dialect cs (tokens ++ more) := by
  induction h with
  | done => exact hrest
  | blank hstep hle _ ih => exact .blank hstep hle (ih hrest)
  | token hstep hle _ ih => exact .token hstep hle (ih hrest)

end Scans

/-! ### Pieces -/

/-- What is neither a blank nor the beginning of a comment begins a token. -/
lemma step_eq_token {c : Char} {rest : List Char} (hblank : isBlank dialect c = false)
    (hcomment : startsLineComment dialect (c :: rest) = false) (hslash : c ≠ '/') :
    step dialect c rest = (token dialect c rest).map fun r => (some r.1, r.2) := by
  unfold step
  rw [if_neg (by simp [hblank]), if_neg (by simp [hcomment])]
  split
  · exact absurd rfl hslash
  · rfl

/-- A blank is no token. -/
lemma step_blank (rest : List Char) : step dialect ' ' rest = .ok (none, rest) := by
  simp [step, isBlank, found]

/-- The characters spell the tokens before everything that `may` follow. -/
def Spells (dialect : Dialect) (may : List Char → Prop) (cs : List Char) (tokens : List Token) :
    Prop :=
  ∀ rest more, may rest → Lexes dialect rest more → Lexes dialect (cs ++ rest) (tokens ++ more)

/-- What may follow anything is nothing special. -/
def anything : List Char → Prop :=
  fun _ => True

namespace Spells

variable {may may' : List Char → Prop} {cs cs' : List Char} {tokens tokens' : List Token}

lemma append (h : Spells dialect may cs tokens) (h' : Spells dialect may' cs' tokens')
    (hmay : ∀ rest, may' rest → may (cs' ++ rest)) :
    Spells dialect may' (cs ++ cs') (tokens ++ tokens') := by
  intro rest more hrest hmore
  rw [List.append_assoc, List.append_assoc]
  exact h _ _ (hmay rest hrest) (h' rest more hrest hmore)

lemma mono (h : Spells dialect may cs tokens) (hmay : ∀ rest, may' rest → may rest) :
    Spells dialect may' cs tokens :=
  fun rest more hrest => h rest more (hmay rest hrest)

lemma lexes (h : Spells dialect may cs tokens) (hnil : may []) : Lexes dialect cs tokens := by
  simpa using h [] [] hnil .nil

/-- A piece that is one token. -/
lemma of_step {c : Char} {rest : List Char} {token : Token}
    (h : ∀ after, may after → step dialect c (rest ++ after) = .ok (some token, after)) :
    Spells dialect may (c :: rest) [token] :=
  fun after _ hafter hmore => .token (h after hafter) (by simp) hmore

/-- A piece that is one token which is neither a blank nor begins a comment. -/
lemma of_token {c : Char} {rest : List Char} {t : Token} (hblank : isBlank dialect c = false)
    (hcomment : ∀ after, may after → startsLineComment dialect (c :: (rest ++ after)) = false)
    (hslash : c ≠ '/')
    (h : ∀ after, may after → Tokenizer.token dialect c (rest ++ after) = .ok (t, after)) :
    Spells dialect may (c :: rest) [t] := by
  refine of_step fun after hafter => ?_
  rw [step_eq_token hblank (hcomment after hafter) hslash, h after hafter]
  rfl

lemma blank : Spells dialect anything [' '] [] :=
  fun rest _ _ hmore => .blank (step_blank rest) (Nat.le_refl _) hmore

end Spells

end SelectBinding.Sql.Tokenizer
