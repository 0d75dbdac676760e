import SelectBinding.Proofs.Place.Scanning
import SelectBinding.Proofs.Place.Yielding
import SelectBinding.Proofs.Sql.Lexing
import SelectBinding.Sql.StatementText

/-!
The tokens of a text stand inside it.

A place is reached by reading the characters before it, and where a line starts is known from the
same characters. So a place that was reached has as its offset the number of characters before it.
The tokens stand one after the other at such places, and the text lists them with these offsets.
-/

namespace SelectBinding.Sql

lemma Location.after_append (place : Location) (cs cs' : List Char) :
    place.after (cs ++ cs') = (place.after cs).after cs' :=
  List.foldl_append

lemma Tokenizer.placeAt_append (place : Location) (cs rest : List Char) :
    placeAt place (cs ++ rest) rest = place.after cs := by
  simp [placeAt]

namespace StatementText

/-- Reading has come to `place`, with `offset` characters behind it and `rest` before it, in a text
whose lines start as given: so many lines are behind it, and so many characters of its own line. -/
def Reached (lineStarts : List Nat) (place : Location) (offset : Nat) (rest : List Char) : Prop :=
  ∃ before start column, lineStarts = before ++ start :: lineStartsFrom offset rest ∧
    place = ⟨before.length + 1, column + 1⟩ ∧ offset = start + column

namespace Reached

variable {lineStarts : List Nat} {place : Location} {offset : Nat} {cs rest : List Char}

lemma start (cs : List Char) : Reached (0 :: lineStartsFrom 0 cs) .start 0 cs :=
  ⟨[], 0, 0, rfl, rfl, rfl⟩

lemma advance {c : Char} (h : Reached lineStarts place offset (c :: rest)) :
    Reached lineStarts (place.advance c) (offset + 1) rest := by
  obtain ⟨before, start, column, rfl, rfl, rfl⟩ := h
  by_cases hc : c = '\n'
  · exact ⟨before ++ [start], start + column + 1, 0, by simp [lineStartsFrom, hc],
      by simp [Location.advance, hc], rfl⟩
  · exact ⟨before, start, column + 1, by simp [lineStartsFrom, hc],
      by simp [Location.advance, hc], rfl⟩

lemma after (h : Reached lineStarts place offset (cs ++ rest)) :
    Reached lineStarts (place.after cs) (offset + cs.length) rest := by
  induction cs generalizing place offset with
  | nil => exact h
  | cons c cs ih =>
    rw [List.length_cons, Nat.add_comm cs.length, ← Nat.add_assoc]
    exact ih h.advance

/-- The offset of a place that was reached is the number of characters before it. -/
lemma offsetIn? (h : Reached lineStarts place offset rest) :
    StatementText.offsetIn? lineStarts place = some offset := by
  obtain ⟨before, start, column, rfl, rfl, rfl⟩ := h
  simp [StatementText.offsetIn?]

end Reached

variable {dialect : Dialect} {sql : String} {tokens : List Located}

/-- The token stands in the text after `offset` characters: these lead to its place, and what is
read from there on begins with it. -/
def StandsAt (dialect : Dialect) (sql : String) (t : Located) (offset : Nat) : Prop :=
  ∃ before c rest rest', sql.toList = before ++ c :: rest ∧ before.length = offset ∧
    t.place = Location.start.after before ∧
    Tokenizer.step dialect c rest = .ok (some t.token, rest')

lemma StandsAt.offset? {t : Located} {offset : Nat} (h : StandsAt dialect sql t offset) :
    (of dialect sql).offset? t.place = some offset := by
  obtain ⟨before, c, rest, rest', htext, rfl, hplace, -⟩ := h
  have hreached : Reached (0 :: lineStartsFrom 0 sql.toList) .start 0 (before ++ c :: rest) :=
    htext ▸ .start sql.toList
  rw [hplace, ← Nat.zero_add before.length]
  exact hreached.after.offsetIn?

/-- There is a character for the token to begin with. -/
lemma StandsAt.lt_length {t : Located} {offset : Nat} (h : StandsAt dialect sql t offset) :
    offset < sql.toList.length := by
  obtain ⟨before, c, rest, rest', htext, rfl, -, -⟩ := h
  simp [htext]

/-- Tokens stand one after the other, none of them before `start`. -/
def Standing (dialect : Dialect) (sql : String) (start : Nat) : List Located → Prop
  | [] => True
  | t :: rest => ∃ offset, start ≤ offset ∧ StandsAt dialect sql t offset ∧
      Standing dialect sql (offset + 1) rest

lemma Standing.mono {start start' : Nat} (h : Standing dialect sql start tokens)
    (hle : start' ≤ start) : Standing dialect sql start' tokens := by
  cases tokens with
  | nil => trivial
  | cons t rest =>
    obtain ⟨offset, hstart, hstands, hrest⟩ := h
    exact ⟨offset, Nat.le_trans hle hstart, hstands, hrest⟩

lemma standing_of_tokensFrom {steps : Nat} {before cs : List Char}
    (htext : sql.toList = before ++ cs)
    (h : Tokenizer.tokensFrom dialect steps (Location.start.after before) cs = .ok tokens) :
    Standing dialect sql before.length tokens := by
  induction steps generalizing before cs tokens with
  | zero =>
    cases h
    trivial
  | succ steps ih =>
    cases cs with
    | nil =>
      cases h
      trivial
    | cons c rest =>
      obtain ⟨front, rest', more, hstep, hmore, rfl⟩ := Tokenizer.tokensFrom_cons_ok_iff.mp h
      -- The first character is always read, so what is left stands behind it.
      obtain ⟨read, rfl⟩ : rest' <:+ rest := Tokenizer.step_ends (front, rest') (by rw [hstep]; rfl)
      have hplace : Tokenizer.placeAt (Location.start.after before) (c :: (read ++ rest')) rest' =
          Location.start.after (before ++ c :: read) := by
        rw [← List.cons_append, Tokenizer.placeAt_append, Location.after_append]
      rw [hplace] at hmore
      have htext' : sql.toList = (before ++ c :: read) ++ rest' := by simpa using htext
      have hbehind := ih htext' hmore
      have hlength : before.length + 1 ≤ (before ++ c :: read).length := by simp
      cases front with
      | none => exact hbehind.mono (Nat.le_of_succ_le hlength)
      | some token =>
        exact ⟨before.length, Nat.le_refl _, ⟨before, c, _, rest', htext, rfl, rfl, hstep⟩,
          hbehind.mono hlength⟩

/-- **Standing.** The tokens of a text stand in it one after the other. -/
lemma standing_of_tokenize (h : Tokenizer.tokenize dialect sql = .ok tokens) :
    Standing dialect sql 0 tokens :=
  standing_of_tokensFrom (List.nil_append _).symm h

/-- A token with its offset, as the text lists it. -/
def entry (text : StatementText) (t : Located) : Token × Nat :=
  (t.token, (text.offset? t.place).getD 0)

lemma StandsAt.entry {t : Located} {offset : Nat} (h : StandsAt dialect sql t offset) :
    (of dialect sql).entry t = (t.token, offset) := by
  rw [StatementText.entry, h.offset?, Option.getD_some]

lemma Standing.filterMap {start : Nat} (h : Standing dialect sql start tokens) :
    tokens.filterMap (fun t => ((of dialect sql).offset? t.place).map fun offset =>
      (t.token, offset)) = tokens.map (of dialect sql).entry := by
  induction tokens generalizing start with
  | nil => rfl
  | cons t rest ih =>
    obtain ⟨offset, -, hstands, hrest⟩ := h
    rw [List.filterMap_cons, List.map_cons, ih hrest, hstands.offset?, hstands.entry]
    rfl

/-- The text lists the tokens that it is made of. -/
lemma tokens_of (h : Tokenizer.tokenize dialect sql = .ok tokens) :
    (of dialect sql).tokens = tokens.map (of dialect sql).entry := by
  rw [← (standing_of_tokenize h).filterMap]
  simp only [of, h]
  rfl

lemma Standing.le_entry {start : Nat} (h : Standing dialect sql start tokens) {t : Located}
    (ht : t ∈ tokens) :
    start ≤ ((of dialect sql).entry t).2 ∧ StandsAt dialect sql t ((of dialect sql).entry t).2 := by
  induction tokens generalizing start with
  | nil => cases ht
  | cons u rest ih =>
    obtain ⟨offset, hstart, hstands, hrest⟩ := h
    rcases List.mem_cons.mp ht with rfl | ht
    · rw [hstands.entry]
      exact ⟨hstart, hstands⟩
    · obtain ⟨hle, hstandsAt⟩ := ih hrest ht
      exact ⟨by omega, hstandsAt⟩

/-- The places inside of the text: they have no offset, or one that is not beyond its end. -/
def inside (text : StatementText) : Region :=
  ⟨fun place => ∀ offset ∈ text.offset? place, offset ≤ text.length, by rintro _ ⟨⟩⟩

/-- **Tokens.** The tokens of a text stand inside it. -/
lemma tokens_inside (h : Tokenizer.tokenize dialect sql = .ok tokens) :
    ∀ t ∈ tokens, t.place ∈ (of dialect sql).inside := by
  intro t ht offset hoffset
  obtain ⟨-, hstands⟩ := (standing_of_tokenize h).le_entry ht
  obtain rfl := Option.some.inj (hstands.offset?.symm.trans hoffset)
  exact Nat.le_of_lt hstands.lt_length

/-! ### Offsets -/

variable {text : StatementText}

/-- All tokens of the text have offsets inside it. -/
def Sound (text : StatementText) : Prop :=
  ∀ entry ∈ text.tokens, entry.2 ≤ text.length

lemma Sound.findFrom? (h : text.Sound) {start offset : Nat} {p : Token → Bool}
    (hfound : offset ∈ text.findFrom? start p) : offset ≤ text.length := by
  obtain ⟨entry, hentry, rfl⟩ := Option.map_eq_some_iff.mp hfound
  exact h entry (List.mem_of_find?_eq_some hentry)

/-- Items are found in the order of the tokens. -/
lemma itemOffsets_sublist (depth : Nat) (atStart : Bool) (entries : List (Token × Nat)) :
    (itemOffsets depth atStart entries).Sublist (entries.map Prod.snd) := by
  induction entries generalizing depth atStart with
  | nil => exact .slnil
  | cons entry rest ih =>
    obtain ⟨token, here⟩ := entry
    have hfound (depth : Nat) (atStart' : Bool) :
        ((if atStart then [here] else []) ++ itemOffsets depth atStart' rest).Sublist
          (here :: rest.map Prod.snd) := by
      split
      · exact (ih depth atStart').cons_cons here
      · exact (ih depth atStart').cons here
    unfold itemOffsets
    extract_lets first
    split
    · exact List.nil_sublist _
    · exact List.nil_sublist _
    · exact (ih 0 true).cons here
    iterate 3
      · exact hfound _ _

lemma Sound.listOffsets (h : text.Sound) {start offset : Nat}
    (hoffset : offset ∈ text.listOffsets start) : offset ≤ text.length := by
  obtain ⟨entry, hentry, rfl⟩ := List.mem_map.mp ((itemOffsets_sublist _ _ _).subset hoffset)
  exact h entry (List.mem_filter.mp hentry).1

end StatementText

end SelectBinding.Sql
