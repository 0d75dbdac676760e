import SelectBinding.Proofs.Place.Offsets
import SelectBinding.Proofs.Place.Queries
import SelectBinding.Proofs.Sql.Stripping

/-!
The tokens that are spent on what is read.

What a parser leaves is the end of the tokens that were there, so the tokens before it are those it
spent. This is followed parser by parser, as far as it matters for names and numbers: a number is
one token, and in a name there is nothing that would part the items of a list.
-/

namespace SelectBinding.Sql

namespace Parser

variable {α β : Type}

/-- Where two parsers read something one after the other, each of them does. -/
lemma bind_ok {p : Parser α} {f : α → Parser β} {c : Context} {ls rest : List Located} {b : β}
    (h : (p >>= f) c ls = .ok (b, rest)) :
    ∃ a left, p c ls = .ok (a, left) ∧ f a c left = .ok (b, rest) := by
  rw [run_bind] at h
  split at h
  · next a left ha => exact ⟨a, left, ha, h⟩
  · cases h

/-- What the parser reads where `t` comes next satisfies `post` together with the tokens that it
spends. -/
def SpendsAt (t : Located) (p : Parser α) (post : List Located → α → Prop) : Prop :=
  ∀ c used rest a, front (used ++ rest) = t → p c (used ++ rest) = .ok (a, rest) → post used a

/-- What the parser reads satisfies `post` together with the tokens that it spends. -/
def Spends (p : Parser α) (post : List Located → α → Prop) : Prop :=
  ∀ t, SpendsAt t p post

/-- The parser spends nothing. -/
def Idle (p : Parser α) : Prop :=
  Spends p fun used _ => used = []

section SpendsAt

variable {t : Located} {p : Parser α} {f : α → Parser β} {mid : List Located → α → Prop}
  {post : List Located → β → Prop}

/-- Of two parsers the second one spends what it does behind the first one. -/
protected lemma SpendsAt.bind (h : SpendsAt t p mid)
    (hf : ∀ used a, mid used a → Spends (f a) fun more b => post (used ++ more) b) :
    SpendsAt t (p >>= f) post := by
  intro c used rest b ht hrun
  obtain ⟨a, left, ha, hb⟩ := bind_ok hrun
  obtain ⟨first, hfirst⟩ := p.rest_suffix ha
  obtain ⟨more, rfl⟩ := (f a).rest_suffix hb
  obtain rfl : used = first ++ more := by
    rw [← List.append_assoc] at hfirst
    exact (List.append_cancel_right hfirst).symm
  rw [List.append_assoc] at ha ht
  exact hf first a (h c first (more ++ rest) a ht ha) _ c more rest b rfl hb

/-- The token that comes next is read, unless it is the end. -/
protected lemma SpendsAt.next :
    SpendsAt t next fun used u => u = t ∧ (used = [t] ∨ used = [] ∧ t = finish) := by
  intro c used rest u hfront hrun
  rw [run_next, hfront] at hrun
  obtain ⟨rfl, hrest⟩ := Prod.mk.inj (Except.ok.inj hrun)
  refine ⟨rfl, ?_⟩
  cases used with
  | nil =>
    cases rest with
    | nil => exact .inr ⟨rfl, hfront.symm⟩
    | cons first rest => exact absurd hrest (List.cons_ne_self first rest).symm
  | cons first used =>
    obtain rfl : first = t := hfront
    obtain rfl : used = [] := List.append_left_eq_self.mp hrest
    exact .inl rfl

end SpendsAt

namespace Spends

variable {p : Parser α} {f : α → Parser β} {post mid : List Located → α → Prop}
  {post' : List Located → β → Prop}

/-- The tokens before what is left are those that were spent. -/
lemma split (h : Spends p post) {c : Context} {ls rest : List Located} {a : α}
    (hrun : p c ls = .ok (a, rest)) : ∃ used, ls = used ++ rest ∧ post used a := by
  obtain ⟨used, rfl⟩ := p.rest_suffix hrun
  exact ⟨used, rfl, h _ c used rest a rfl hrun⟩

/-- What holds of all that is read holds whatever is spent on it. -/
protected lemma of_yields {such : α → Prop} (h : Yields everywhere p such)
    (himp : ∀ used a, such a → post used a) : Spends p post :=
  fun _ c used rest a _ hrun => himp used a (h c (used ++ rest) a rest (fun _ _ => trivial) hrun)

protected lemma mono (h : Spends p mid) (himp : ∀ used a, mid used a → post used a) :
    Spends p post :=
  fun t c used rest a ht hrun => himp used a (h t c used rest a ht hrun)

protected lemma anything : Spends p fun _ _ => True :=
  fun _ _ _ _ _ _ _ => trivial

/-- What holds of all that is read holds as well. -/
protected lemma and {such : α → Prop} (h : Spends p post) (hsuch : Yields everywhere p such) :
    Spends p fun used a => such a ∧ post used a :=
  fun t c used rest a ht hrun =>
    ⟨hsuch c (used ++ rest) a rest (fun _ _ => trivial) hrun, h t c used rest a ht hrun⟩

protected lemma pure {a : α} (h : post [] a) : Spends (pure a) post := by
  intro t c used rest b _ hrun
  obtain ⟨rfl, hused⟩ := Prod.mk.inj (Except.ok.inj hrun)
  obtain rfl : used = [] := List.append_left_eq_self.mp hused
  exact h

protected lemma bind (h : Spends p mid)
    (hf : ∀ used a, mid used a → Spends (f a) fun more b => post' (used ++ more) b) :
    Spends (p >>= f) post' :=
  fun t => (h t).bind hf

/-- What is read first spends nothing. -/
protected lemma after (h : Idle p) (hf : ∀ a, Spends (f a) post') : Spends (p >>= f) post' := by
  refine h.bind fun used a hused => ?_
  obtain rfl : used = [] := hused
  exact hf a

protected lemma ite {b : Prop} [Decidable b] {q : Parser α} (h : Spends p post)
    (hq : Spends q post) : Spends (if b then p else q) post := by
  split <;> assumption

protected lemma failWith {failure : Failure} : Spends (failWith failure) post :=
  fun _ _ _ _ _ _ hrun => by cases hrun

/-! ### Tokens -/

protected lemma look (f : Context → List Located → α) : Idle (look f) :=
  fun _ _ _ _ _ _ hrun => List.append_left_eq_self.mp (Prod.mk.inj (Except.ok.inj hrun)).2

/-- The token that is looked at comes next. -/
protected lemma peek {f : Located → Parser β} (hf : ∀ t, SpendsAt t (f t) post') :
    Spends (peek >>= f) post' := by
  intro t c used rest b ht hrun
  rw [run_bind, run_peek] at hrun
  exact hf _ c used rest b rfl hrun

protected lemma next : Spends next fun used t => used = [t] ∨ used = [] ∧ t = finish := by
  intro t c used rest u ht hrun
  obtain ⟨rfl, hused⟩ := SpendsAt.next c used rest u ht hrun
  exact hused

protected lemma readIf (p : Token → Prop) [DecidablePred p] :
    Spends (readIf p) fun used b =>
      b = true ∧ (∃ t, used = [t] ∧ p t.token) ∨ b = false ∧ used = [] := by
  intro t c used rest b _ hrun
  cases hall : used ++ rest with
  | nil =>
    rw [hall] at hrun
    obtain ⟨rfl, -⟩ := Prod.mk.inj (Except.ok.inj hrun)
    exact .inr ⟨rfl, (List.append_eq_nil_iff.mp hall).1⟩
  | cons t left =>
    rw [hall, readIf] at hrun
    simp only at hrun
    split at hrun
    · next ht =>
      obtain ⟨rfl, rfl⟩ := Prod.mk.inj (Except.ok.inj hrun)
      obtain rfl : used = [t] := List.append_cancel_right (by simpa using hall)
      exact .inl ⟨rfl, t, rfl, ht⟩
    · obtain ⟨rfl, hrest⟩ := Prod.mk.inj (Except.ok.inj hrun)
      exact .inr ⟨rfl, List.append_left_eq_self.mp (hall.trans hrest)⟩

protected lemma sign (spelling : String) : Spends (sign spelling) fun used b =>
    b = true ∧ (∃ t, used = [t] ∧ t.token = .sign spelling) ∨ b = false ∧ used = [] :=
  .readIf (· = .sign spelling)

protected lemma keyword (word : String) : Spends (keyword word) fun used b =>
    b = true ∧ (∃ t, used = [t] ∧ t.token.isKeyword word = true) ∨ b = false ∧ used = [] :=
  .readIf _

protected lemma keywords (words : List String) : Spends (keywords words) fun used b =>
    b = true ∧ List.Forall₂ (fun t word => t.token.isKeyword word = true) used words ∨
      b = false ∧ used = [] := by
  intro t c used rest b _ hrun
  simp only [keywords] at hrun
  split at hrun
  · next hthere =>
    obtain ⟨rfl, hrest⟩ := Prod.mk.inj (Except.ok.inj hrun)
    obtain ⟨hlength, hall⟩ := hthere
    have hused : used = (used ++ rest).take words.length := by
      have hsplit := List.take_append_drop words.length (used ++ rest)
      rw [hrest] at hsplit
      exact (List.append_cancel_right hsplit).symm
    rw [← hused] at hlength hall
    have hwords {t : Located} {word : String} (hmem : (t, word) ∈ used.zip words) :
        t.token.isKeyword word = true := List.all_eq_true.mp hall _ hmem
    exact .inl ⟨rfl, List.forall₂_iff_zip.mpr ⟨hlength, hwords⟩⟩
  · obtain ⟨rfl, hrest⟩ := Prod.mk.inj (Except.ok.inj hrun)
    exact .inr ⟨rfl, List.append_left_eq_self.mp hrest⟩

/-! ### Choices and repetitions -/

/-- Whatever is spent, something is found. -/
protected lemma found {such : List Located → Prop} :
    Spends (some <$> p) fun used found => found = none → such used :=
  .of_yields (Yields.map (Yields.anything.mono fun a _ => Option.some_ne_none a))
    fun _ _ hsome hnone => absurd hnone hsome

protected lemma maybe (h : Spends p post) : Spends (maybe p) fun used found =>
    (∃ a, found = some a ∧ post used a) ∨ found = none ∧ used = [] := by
  intro t c used rest found ht hrun
  simp only [Parser.maybe] at hrun
  split at hrun
  · next a left ha =>
    obtain ⟨rfl, rfl⟩ := Prod.mk.inj (Except.ok.inj hrun)
    exact .inl ⟨a, rfl, h t c used left a ht ha⟩
  · split at hrun
    · cases hrun
    · obtain ⟨rfl, hrest⟩ := Prod.mk.inj (Except.ok.inj hrun)
      exact .inr ⟨rfl, List.append_left_eq_self.mp hrest⟩

protected lemma attempt (h : Spends p post) : Spends (attempt p) fun used found =>
    (∃ a, found = .ok a ∧ post used a) ∨ (∃ e, found = .error e) ∧ used = [] := by
  intro t c used rest found ht hrun
  simp only [Parser.attempt] at hrun
  split at hrun
  · next a left ha =>
    obtain ⟨rfl, rfl⟩ := Prod.mk.inj (Except.ok.inj hrun)
    exact .inl ⟨a, rfl, h t c used left a ht ha⟩
  · obtain ⟨rfl, hrest⟩ := Prod.mk.inj (Except.ok.inj hrun)
    exact .inr ⟨⟨_, rfl⟩, List.append_left_eq_self.mp hrest⟩

protected lemma steps {step : α → Parser (Option α)}
    (hstep : ∀ used a, post used a →
      Spends (step a) fun more next => post (used ++ more) (next.getD a))
    (limit : Nat) {used : List Located} {a : α} (ha : post used a) :
    Spends (steps step limit a) fun more b => post (used ++ more) b := by
  induction limit generalizing used a with
  | zero => exact .pure (by simpa using ha)
  | succ limit ih =>
    refine (hstep used a ha).bind fun more next hnext => ?_
    cases next with
    | none => exact .pure (by simpa using hnext)
    | some b => simpa only [← List.append_assoc, Option.getD_some] using ih hnext

/-- What holds at first and after every step holds in the end. -/
protected lemma repeatedly {step : α → Parser (Option α)}
    (hstep : ∀ used a, post used a →
      Spends (step a) fun more next => post (used ++ more) (next.getD a))
    {a : α} (ha : post [] a) : Spends (repeatedly step a) post :=
  .after (.look _) fun _ => .steps hstep _ ha

end Spends

namespace Idle

variable {p : Parser α} {f : α → Parser β}

protected lemma pure (a : α) : Idle (pure a) :=
  Spends.pure rfl

protected lemma bind (h : Idle p) (hf : ∀ a, Idle (f a)) : Idle (p >>= f) :=
  Spends.after h hf

protected lemma ite {b : Prop} [Decidable b] {q : Parser α} (h : Idle p) (hq : Idle q) :
    Idle (if b then p else q) :=
  Spends.ite h hq

lemma peekSign (spelling : String) : Idle (peekSign spelling) :=
  .bind (.look _) fun _ => .pure _

lemma peekKeyword (word : String) : Idle (peekKeyword word) :=
  .bind (.look _) fun _ => .pure _

lemma onlyIn {dialects : List Dialect} {question : Parser Bool} (h : Idle question) :
    Idle (onlyIn dialects question) :=
  .bind (.look _) fun _ => .ite h (.pure _)

end Idle

end Parser

/-! ### Names and numbers -/

/-- No token parts the items of a list, ends it or nests it. -/
def Seamless (used : List Located) : Prop :=
  ∀ t ∈ used, StatementText.IsPart t.token

lemma Seamless.append {used more : List Located} (h : Seamless used) (h' : Seamless more) :
    Seamless (used ++ more) :=
  List.forall_mem_append.mpr ⟨h, h'⟩

lemma Seamless.nil : Seamless [] := by
  simp [Seamless]

lemma seamless_singleton {t : Located} (h : StatementText.IsPart t.token) : Seamless [t] := by
  simpa [Seamless] using h

/-- If the term is a name or a number by itself, it is spelled by these tokens: a number by one
token alone, a name by tokens without seams. -/
def Term.SpelledBy (used : List Located) : Term → Prop
  | .literal (.number spelling long) => ∃ place, used = [⟨.number spelling long, place⟩]
  | .name _ => used ≠ [] ∧ Seamless used
  | .path _ => used ≠ [] ∧ Seamless used
  | _ => True

/-- There is a first token in a name or a number, and a number is it. -/
lemma Term.SpelledBy.front {used : List Located} {t : Term} (h : t.SpelledBy used)
    (hatom : t.IsAtom) : ∃ first more, used = first :: more ∧ Seamless used ∧
      ∀ spelling long, t = .literal (.number spelling long) →
        first.token = .number spelling long := by
  cases t with
  | name ident =>
    obtain ⟨hne, hseamless⟩ := h
    obtain ⟨first, more, rfl⟩ := List.exists_cons_of_ne_nil hne
    exact ⟨first, more, rfl, hseamless, nofun⟩
  | path idents =>
    obtain ⟨hne, hseamless⟩ := h
    obtain ⟨first, more, rfl⟩ := List.exists_cons_of_ne_nil hne
    exact ⟨first, more, rfl, hseamless, nofun⟩
  | literal value =>
    cases value with
    | number spelling long =>
      obtain ⟨place, rfl⟩ := h
      refine ⟨_, [], rfl, seamless_singleton (by simp [StatementText.IsPart]), ?_⟩
      rintro _ _ ⟨⟩
      rfl
    | _ => exact hatom.elim
  | _ => exact hatom.elim

lemma Term.spelledBy_of_compound {t : Term} (h : ¬ t.IsAtom) (used : List Located) :
    t.SpelledBy used := by
  cases t with
  | name ident => exact absurd trivial h
  | path idents => exact absurd trivial h
  | literal value =>
    cases value with
    | number spelling long => exact absurd trivial h
    | _ => trivial
  | _ => trivial

/-- A criterion is spelled by these tokens: where it may stand in a sorting these have no seams, and
a number is the first of them. -/
def SortTerm.SpelledBy (used : List Located) (item : SortTerm) : Prop :=
  item.IsPlain → item.term.IsAtom → ∃ first more, used = first :: more ∧ Seamless used ∧
    ∀ spelling long, item.term = .literal (.number spelling long) →
      first.token = .number spelling long

/-- If the term is a name or a number by itself, it is a name that ends with these tokens. -/
def Term.EndsWith (used : List Located) (t : Term) : Prop :=
  t.IsAtom → (∀ value, t ≠ .literal value) ∧ Seamless used

lemma Term.EndsWith.spelledBy {used : List Located} {t : Term} (h : t.EndsWith used)
    {first : Located} (hfirst : StatementText.IsPart first.token) :
    t.SpelledBy (first :: used) := by
  have hspelled (hatom : t.IsAtom) : Seamless (first :: used) :=
    (seamless_singleton hfirst).append (h hatom).2
  cases t with
  | name ident => exact ⟨nofun, hspelled trivial⟩
  | path idents => exact ⟨nofun, hspelled trivial⟩
  | literal value =>
    cases value with
    | number spelling long => exact absurd rfl ((h trivial).1 _)
    | _ => trivial
  | _ => trivial

lemma Term.Formed.endsWith {t : Term} (h : t.Formed everywhere) (used : List Located) :
    t.EndsWith used :=
  fun hatom => absurd hatom h.compound

namespace Grammar

open Sql.Parser

section Names

lemma nextPart_seamless (parts : List Ident) :
    Spends (nextPart parts) fun used _ => Seamless used := by
  refine (Spends.sign ".").bind fun used there hthere => ?_
  rcases hthere with ⟨rfl, t, rfl, ht⟩ | ⟨rfl, rfl⟩
  · have hdot : Seamless [t] := seamless_singleton (by simp [StatementText.IsPart, ht])
    refine Spends.next.bind fun used u hused => ?_
    have hpart (hu : StatementText.IsPart u.token) : Seamless ([t] ++ (used ++ [])) := by
      rcases hused with rfl | ⟨rfl, -⟩
      · exact hdot.append (seamless_singleton hu)
      · exact hdot
    split
    · next value quote hu => exact .pure (hpart (by rw [hu]; simp [StatementText.IsPart]))
    · next value hu => exact .pure (hpart (by rw [hu]; simp [StatementText.IsPart]))
    · exact .failWith
    · exact .failWith
  · exact .pure .nil

lemma asteriskEndsName_idle : Idle asteriskEndsName :=
  .onlyIn (.bind (.peekSign ".") fun _ => .ite (.bind (.look _) fun _ => .pure _) (.pure _))

/-- Whatever tokens are spent on it, what is formed is no name by itself. -/
lemma endsWith_of_formed {p : Parser Term} (h : Yields everywhere p (·.Formed everywhere))
    {used : List Located → List Located} : Spends p fun more t => t.EndsWith (used more) :=
  .of_yields h fun _ _ ht => ht.endsWith _

/-- The parts of a name after its first word have no seams. -/
lemma plainWord_spends {inner : Inner}
    (hinner : ∀ bound, Yields everywhere (inner.termAbove bound) (·.Within everywhere))
    (word : Ident) : Spends (plainWord inner word) fun used t => t.EndsWith used := by
  have hword : (Term.name word).EndsWith [] := fun _ => ⟨nofun, .nil⟩
  have hparts : Spends (repeatedly (fun parts => do
      if ← asteriskEndsName then return none else nextPart parts) [word]) fun used _ =>
        Seamless used := by
    refine .repeatedly (fun used parts hused => .after asteriskEndsName_idle fun ends => ?_) .nil
    exact .ite (.pure (by simpa using hused))
      ((nextPart_seamless parts).mono fun more _ hmore => hused.append hmore)
  refine .after (.look _) fun t => ?_
  split
  iterate 2
    · refine hparts.bind fun used parts hused => (Spends.sign ".").bind fun more there hthere => ?_
      rcases hthere with ⟨rfl, -⟩ | ⟨rfl, rfl⟩
      · exact endsWith_of_formed (.seq fun _ => .pure (.other _))
      · refine .after (.peekSign "(") fun opens => .ite ?_ (.pure fun _ => ⟨nofun, by simpa⟩)
        have hname : ∀ ident ∈ parts.reverse, ident.Within everywhere := fun _ _ => trivial
        exact endsWith_of_formed (callAfter_formed hinner hname)
  iterate 3
    · exact .ite (endsWith_of_formed (.seq fun _ => .pure (.other _))) (.pure hword)
  · exact .pure hword

/-- A word is no number. -/
lemma wordLiteral_spelled {t : Located} :
    Yields everywhere (wordLiteral t) fun value => ∀ spelling long,
      value ≠ .number spelling long := by
  unfold wordLiteral
  split
  · exact .pure nofun
  · exact .expected
  · exact .ite (.pure nofun) (.ite (.pure nofun) (.ite (.pure nofun) .expected))

/-- A number is one token. -/
lemma literal_spends : Spends literal fun used value => ∀ spelling long,
    value = .number spelling long → ∃ place, used = [⟨.number spelling long, place⟩] := by
  have hnot {p : Parser Literal} (h : Yields everywhere p fun value => ∀ spelling long,
      value ≠ .number spelling long) (used : List Located) : Spends p fun more value =>
        ∀ spelling long, value = .number spelling long →
          ∃ place, used ++ more = [⟨.number spelling long, place⟩] :=
    .of_yields h fun _ _ hvalue spelling long heq => absurd heq (hvalue spelling long)
  have hnamed (mark : String) : Yields everywhere (namedParameter mark) fun value =>
      ∀ spelling long, value ≠ .number spelling long := by
    refine namedParameter_other.mono ?_
    rintro _ ⟨text, rfl⟩
    exact nofun
  refine Spends.next.bind fun used t hused => .after (.look _) fun escapes => ?_
  split
  · exact hnot wordLiteral_spelled used
  · next spelling long ht =>
    refine .pure ?_
    rintro _ _ ⟨⟩
    rcases hused with rfl | ⟨-, rfl⟩
    · exact ⟨t.place, by rw [← ht]; rfl⟩
    · cases ht
  · exact .ite (.pure nofun) .failWith
  · next kind value _ _ =>
    refine .pure fun spelling long heq => ?_
    cases kind <;> cases heq
  · exact .pure nofun
  · exact hnot (hnamed _) used
  · exact hnot (hnamed _) used
  · exact .failWith

end Names

/-! ### Terms -/

section Terms

variable {inner : Inner}
  (hinner : ∀ bound, Yields everywhere (inner.termAbove bound) (·.Within everywhere))

include hinner

omit hinner in
/-- Where a word begins no form, nothing has been spent on one. -/
lemma keywordForm_idle (operand : Parser Term) (t : Located) (word : String) (name : Ident) :
    Spends (keywordForm inner operand t word name) fun used found => found = none → used = [] := by
  have hnone : Spends (pure none : Parser (Option Term)) fun used found =>
      found = none → used = [] := .pure fun _ => rfl
  refine .after (.look _) fun dialect => .after (.peekSign _) fun parenthesis => ?_
  split
  iterate 3
    · exact .pure nofun
  iterate 4
    · exact .ite (.pure nofun) hnone
  iterate 5
    · exact .found
  · exact .found
  · exact .found
  · exact .ite .found hnone
  iterate 3
    · exact .found
  · exact .found
  · exact .found
  iterate 2
    · exact .found
  · exact .ite (.after (.look _) fun _ => .found) hnone
  iterate 3
    · exact .found
  · exact .found
  · refine (Spends.sign "[").bind fun used there hthere => ?_
    rcases hthere with ⟨rfl, -⟩ | ⟨rfl, rfl⟩
    · exact .found
    · exact .ite .found (.ite .found (.pure fun _ => rfl))
  · have hnegated : Yields everywhere (do
        return some (.unary .not (← inner.termAbove (← bindingOf .not)))) fun found =>
          found ≠ (none : Option Term) := .seq fun _ => .seq fun _ => .pure nofun
    exact (Spends.keyword "EXISTS").bind fun _ _ _ => .ite .found <|
      .of_yields hnegated fun _ _ hsome hnone => absurd hnone hsome
  · exact .ite .found hnone
  · exact .ite .found hnone
  · have hprior : Yields everywhere (do
        return some (.other ("PRIOR " ++ (← inner.termAbove (← bindingOf .sum)).text)))
          fun found => found ≠ (none : Option Term) := .seq fun _ => .seq fun _ => .pure nofun
    exact .after (.look _) fun _ => .ite
      (.of_yields hprior fun _ _ hsome hnone => absurd hnone hsome) hnone
  · exact .after (.peekSign _) fun _ => .ite .found hnone
  · exact hnone

/-- The term of an operand that begins with a word goes on without seams, if it is a name. -/
lemma bareWordOperand_spends (operand : Parser Term) (t : Located) (word : String) (name : Ident) :
    Spends (bareWordOperand inner operand t word name) fun used found => found.1.EndsWith used := by
  have hform : Spends (keywordForm inner operand t word name) fun used found =>
      (∀ term ∈ found, term.Formed everywhere) ∧ (found = none → used = []) :=
    (keywordForm_idle operand t word name).and (keywordForm_formed hinner trivial)
  have hplain := plainWord_spends hinner name
  refine hform.attempt.bind fun used form hfound => ?_
  rcases hfound with ⟨found, rfl, hformed, hidle⟩ | ⟨⟨failure, rfl⟩, rfl⟩
  · cases found with
    | some term => exact .pure ((hformed term rfl).endsWith _)
    | none =>
      obtain rfl := hidle rfl
      exact hplain.bind fun more term hterm => .pure (by simpa using hterm)
  · refine .ite .failWith (hplain.attempt.bind fun more found hmore => ?_)
    rcases hmore with ⟨term, rfl, hterm⟩ | ⟨⟨other, rfl⟩, rfl⟩
    · exact .pure (by simpa using hterm)
    · exact .failWith

/-- The term that an operand starts with is spelled by the tokens spent on it. -/
lemma operandStart_spends (operand : Parser Term) :
    Spends (operandStart inner operand) fun used start => start.1.SpelledBy used := by
  have htyped : Spends (typedLiteral inner operand) fun used term => term.SpelledBy used :=
    .of_yields typedLiteral_text fun used term h =>
      Term.spelledBy_of_compound (h.formed (G := everywhere)).compound used
  have hliteral : Spends literal fun used value => (Term.literal value).SpelledBy used := by
    refine literal_spends.mono fun used value hvalue => ?_
    cases value with
    | number spelling long => exact hvalue spelling long rfl
    | _ => trivial
  have hread : Spends (do return ((.literal (← literal), true) : Collatable)) fun used start =>
      start.1.SpelledBy used :=
    hliteral.bind fun _ _ hvalue => .pure (by simpa using hvalue)
  refine htyped.maybe.bind fun used typed hfound => ?_
  rcases hfound with ⟨typed, rfl, htyped⟩ | ⟨rfl, rfl⟩
  · exact .pure (by simpa using htyped)
  refine .peek fun t => ?_
  split
  · next value quote ht =>
    refine SpendsAt.next.bind fun used u hused => ?_
    obtain rfl : used = [t] := by
      rcases hused.2 with rfl | ⟨-, rfl⟩
      · rfl
      · cases ht
    have hpart : StatementText.IsPart t.token := by simp [StatementText.IsPart, ht]
    split
    · exact (bareWordOperand_spends hinner operand t _ _).mono fun _ _ h => h.spelledBy hpart
    · exact (plainWord_spends hinner _).bind fun _ _ h => .pure (by simpa using h.spelledBy hpart)
  · refine SpendsAt.next.bind fun used u _ => ?_
    exact .of_yields ((signOperand_formed hinner).bind fun _ hterm => .pure hterm) fun _ _ h =>
      Term.spelledBy_of_compound (Term.Formed.compound h) _
  · exact Spends.after (.look _) (fun _ => .ite hread (Spends.next.bind fun _ _ _ => .failWith)) t
  iterate 3
    · exact hread t
  · exact (Spends.next.bind fun _ _ _ => .failWith) t

lemma operandWithin_spends (depth : Nat) :
    Spends (operandWithin inner depth) fun used t => t.SpelledBy used := by
  cases depth with
  | zero => exact .failWith
  | succ depth =>
    refine (operandStart_spends hinner _).bind fun used start hstart => ?_
    obtain ⟨start, collatable⟩ := start
    dsimp -zeta only
    extract_lets -underBinder rest
    have hcollated (used : List Located) :
        Spends (rest true) fun more t => t.SpelledBy (used ++ more) :=
      .of_yields (.seq fun _ => .pure (.other _)) fun _ _ h =>
        Term.spelledBy_of_compound (Term.Formed.compound (G := everywhere) h) _
    have hplain : Spends (rest false) fun more t => t.SpelledBy (used ++ more) :=
      .pure (by simpa using hstart)
    refine .ite ((Spends.keyword "COLLATE").bind fun more collated hmore => ?_) hplain
    rcases hmore with ⟨rfl, -⟩ | ⟨rfl, rfl⟩
    · simpa only [← List.append_assoc] using hcollated (used ++ more)
    · exact hplain

lemma operand_spends : Spends (operand inner) fun used t => t.SpelledBy used :=
  .after (.look _) fun _ => operandWithin_spends hinner _

omit hinner in
lemma nextBinding_idle : Idle nextBinding := by
  refine .bind (.look _) fun dialect => .bind (.bind (.look _) fun t => .bind (.look _) fun _ =>
    .bind (.look _) fun _ => ?_) fun _ => .pure _
  split <;> exact .pure _

/-- No operator leaves a name or a number by itself. -/
lemma nextOperator_spends (bound : Nat) {left : Term} {used : List Located}
    (h : left.SpelledBy used) :
    Spends (nextOperator inner bound left) fun more next =>
      (next.getD left).SpelledBy (used ++ more) := by
  have hafter (binding : Nat) : Yields everywhere (some <$> operatorAfter inner left binding)
      fun found => ∃ t, found = some t ∧ ¬ t.IsAtom :=
    .map ((operatorAfter_extends hinner).mono fun t ht => ⟨t, rfl, ht.compound⟩)
  refine .after nextBinding_idle fun binding => .ite ?_ (.pure (by simpa using h))
  refine .of_yields (hafter binding) ?_
  rintro more _ ⟨t, rfl, ht⟩
  exact t.spelledBy_of_compound ht _

/-- **Spelling.** The tokens spent on a name or a number are those that spell it. -/
lemma termAbove_spends (bound : Nat) :
    Spends (termAbove inner bound) fun used t => t.SpelledBy used := by
  refine (operand_spends hinner).bind fun used first hfirst => .repeatedly (fun more t ht => ?_)
    (by simpa using hfirst)
  simpa only [← List.append_assoc] using nextOperator_spends hinner bound ht

end Terms

/-- **Levels.** At any level of a statement, a name or a number is read from the tokens that spell
it. -/
lemma level_spends (depth bound : Nat) :
    Spends ((level depth).termAbove bound) fun used t => t.SpelledBy used := by
  cases depth with
  | zero => exact .failWith
  | succ depth => exact termAbove_spends (level_within depth) bound

/-! ### Sorting criteria -/

lemma direction_seamless : Spends direction fun used _ => Seamless used := by
  have hword {used : List Located} {word : String}
      (h : ∃ t, used = [t] ∧ t.token.isKeyword word = true) : Seamless used := by
    obtain ⟨t, rfl, ht⟩ := h
    exact seamless_singleton (StatementText.isPart_of_isKeyword ht)
  refine (Spends.keyword "ASC").bind fun used first hfirst => ?_
  rcases hfirst with ⟨rfl, hfirst⟩ | ⟨rfl, rfl⟩
  · exact .pure (by simpa using hword hfirst)
  · refine (Spends.keyword "DESC").bind fun used last hlast => ?_
    rcases hlast with ⟨rfl, hlast⟩ | ⟨rfl, rfl⟩
    · exact .pure (by simpa using hword hlast)
    · exact .pure .nil

lemma placeOfNulls_idle : Spends placeOfNulls fun used found => found = none → used = [] := by
  refine (Spends.keywords _).bind fun used first hfirst => ?_
  rcases hfirst with ⟨rfl, -⟩ | ⟨rfl, rfl⟩
  · exact .pure nofun
  · refine (Spends.keywords _).bind fun more last hlast => ?_
    rcases hlast with ⟨rfl, -⟩ | ⟨rfl, rfl⟩
    · exact .pure nofun
    · exact .pure fun _ => rfl

/-- **Criteria.** What may stand in a sorting is read from tokens without seams. -/
lemma sortTerm_spends {inner : Inner}
    (hinner : Spends inner.term fun used t => t.SpelledBy used) :
    Spends (sortTerm inner) fun used item => item.SpelledBy used := by
  refine hinner.bind fun used term hterm => direction_seamless.bind fun more ascending hmore =>
    placeOfNulls_idle.bind fun nulls nullsFirst hnulls => ?_
  have hfills : Spends (onlyIn [.ansi] (keywords ["WITH", "FILL"])) fun used there =>
      there = false → used = [] :=
    .after (.look _) fun _ => .ite
      ((Spends.keywords _).mono fun _ _ hwords hnot => by simpa [hnot] using hwords)
      (.pure fun _ => rfl)
  refine hfills.bind fun fills there hthere => ?_
  extract_lets -underBinder rest
  have hrest {q : Parser (Option String)}
      (hq : Spends q fun filled withFill => withFill = none → fills ++ filled = []) :
      Spends (q >>= rest) fun last item =>
        item.SpelledBy (used ++ (more ++ (nulls ++ (fills ++ last)))) := by
    refine hq.bind fun filled withFill hnone => .pure fun hitem hatom => ?_
    obtain ⟨first, others, rfl, hseamless, hnumber⟩ := hterm.front hatom
    obtain rfl := hnulls hitem.1
    obtain ⟨rfl, rfl⟩ := List.append_eq_nil_iff.mp (hnone hitem.2)
    exact ⟨first, others ++ more, by simp, by simpa using hseamless.append hmore, hnumber⟩
  cases there with
  | true => exact hrest .found
  | false => exact hrest (.pure fun _ => by simp [hthere rfl])

end Grammar

end SelectBinding.Sql
