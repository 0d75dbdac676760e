import SelectBinding.Proofs.Place.Offsets

/-!
The items of a list among the tokens of a text.

Parentheses nest what is between them. A list goes up to the first closing parenthesis or semicolon
that is not nested, and the commas that are not nested part it. What is found of it is where each
part starts that has a token at all.
-/

namespace SelectBinding.Sql

/-- What a token adds to the nesting of the tokens after it. -/
def Token.turn (token : Token) : Int :=
  if token = .sign "(" then 1 else if token = .sign ")" then -1 else 0

namespace StatementText

variable {marks : List Token} {depth : Int} {e : Token × Nat}
  {entries part rest : List (Token × Nat)}

/-! ### Nesting -/

/-- How many more parentheses the tokens open than they close. -/
def nesting : List (Token × Nat) → Int
  | [] => 0
  | e :: rest => e.1.turn + nesting rest

@[simp] lemma nesting_nil : nesting [] = 0 := rfl

@[simp] lemma nesting_cons (e : Token × Nat) (rest : List (Token × Nat)) :
    nesting (e :: rest) = e.1.turn + nesting rest := rfl

@[simp] lemma nesting_append (part rest : List (Token × Nat)) :
    nesting (part ++ rest) = nesting part + nesting rest := by
  induction part with
  | nil => rw [List.nil_append, nesting_nil, Int.zero_add]
  | cons e part ih => rw [List.cons_append, nesting_cons, ih, nesting_cons, Int.add_assoc]

/-- None of the marks is among the tokens without being nested, where `depth` parentheses are open
before the first token. -/
def Clear (marks : List Token) (depth : Int) (entries : List (Token × Nat)) : Prop :=
  ∀ before e after, entries = before ++ e :: after → depth + nesting before = 0 → e.1 ∉ marks

/-- The part goes up to the first of the marks that is not nested, or else to the end. -/
structure UpTo (marks : List Token) (depth : Int) (entries part rest : List (Token × Nat)) : Prop where
  split : entries = part ++ rest
  clear : Clear marks depth part
  stops : ∀ e ∈ rest.head?, depth + nesting part = 0 ∧ e.1 ∈ marks

lemma clear_nil : Clear marks depth [] := by
  intro before e after h
  cases before <;> cases h

lemma clear_cons_iff :
    Clear marks depth (e :: rest) ↔
      (depth = 0 → e.1 ∉ marks) ∧ Clear marks (depth + e.1.turn) rest := by
  constructor
  · refine fun h => ⟨fun hdepth => h [] e rest rfl (by simpa using hdepth), ?_⟩
    intro before d after hsplit hnesting
    exact h (e :: before) d after (by rw [hsplit]; rfl) (by rw [nesting_cons]; omega)
  · rintro ⟨hfirst, hrest⟩ before d after hsplit hnesting
    cases before with
    | nil =>
      obtain ⟨rfl, rfl⟩ := List.cons.inj hsplit
      exact hfirst (by simpa using hnesting)
    | cons first before =>
      obtain ⟨rfl, rfl⟩ := List.cons.inj hsplit
      exact hrest before d after rfl (by rw [nesting_cons] at hnesting; omega)

lemma clear_append_iff :
    Clear marks depth (part ++ rest) ↔
      Clear marks depth part ∧ Clear marks (depth + nesting part) rest := by
  induction part generalizing depth with
  | nil => simp [clear_nil]
  | cons e part ih =>
    rw [List.cons_append, clear_cons_iff, clear_cons_iff, ih, nesting_cons, and_assoc,
      Int.add_assoc]

lemma Clear.append_marks {marks' : List Token} (h : Clear marks depth entries)
    (h' : Clear marks' depth entries) : Clear (marks ++ marks') depth entries := by
  intro before e after hsplit hnesting hmark
  rcases List.mem_append.mp hmark with hmark | hmark
  · exact h before e after hsplit hnesting hmark
  · exact h' before e after hsplit hnesting hmark

/-- Up to the first mark there is always a part. -/
lemma exists_upTo (marks : List Token) (depth : Int) (entries : List (Token × Nat)) :
    ∃ part rest, UpTo marks depth entries part rest := by
  induction entries generalizing depth with
  | nil => exact ⟨[], [], rfl, clear_nil, by simp⟩
  | cons e entries ih =>
    by_cases hmark : depth = 0 ∧ e.1 ∈ marks
    · exact ⟨[], e :: entries, rfl, clear_nil, by simpa using hmark⟩
    · obtain ⟨part, rest, rfl, hclear, hstops⟩ := ih (depth + e.1.turn)
      refine ⟨e :: part, rest, rfl, clear_cons_iff.mpr ⟨by simpa using hmark, hclear⟩, ?_⟩
      intro d hd
      rw [nesting_cons, ← Int.add_assoc]
      exact hstops d hd

/-- The parts between the commas that are not nested. -/
inductive Parted : List (Token × Nat) → List (List (Token × Nat)) → Prop
  | last {entries : List (Token × Nat)} (h : UpTo [.sign ","] 0 entries entries []) :
    Parted entries [entries]
  | comma {entries part rest : List (Token × Nat)} {parts : List (List (Token × Nat))}
    {comma : Token × Nat} (h : UpTo [.sign ","] 0 entries part (comma :: rest))
    (hrest : Parted rest parts) : Parted entries (part :: parts)

lemma exists_parted (entries : List (Token × Nat)) : ∃ parts, Parted entries parts := by
  obtain ⟨part, rest, h⟩ := exists_upTo [.sign ","] 0 entries
  cases rest with
  | nil =>
    obtain rfl : entries = part := by simpa using h.split
    exact ⟨_, .last h⟩
  | cons comma rest =>
    have hshorter : rest.length < entries.length := by
      rw [h.split, List.length_append, List.length_cons]
      omega
    obtain ⟨parts, hparts⟩ := exists_parted rest
    exact ⟨_, .comma h hparts⟩
termination_by entries.length

/-! ### The items of a part -/

/-- A token that neither ends the list nor parts it starts an item where one is awaited, and nests
what comes after it as its parenthesis says. -/
lemma itemOffsets_cons (depth : Nat) (h : depth = 0 → e.1 ∉ [Token.sign ")", .sign ";", .sign ","])
    (atStart : Bool) (rest : List (Token × Nat)) :
    ∃ depth' : Nat, (depth' : Int) = depth + e.1.turn ∧ itemOffsets depth atStart (e :: rest) =
      (if atStart then [e.2] else []) ++ itemOffsets depth' false rest := by
  obtain ⟨token, offset⟩ := e
  by_cases hopen : token = .sign "("
  · subst hopen
    exact ⟨depth + 1, by simp [Token.turn], by rw [itemOffsets]⟩
  · by_cases hclose : token = .sign ")"
    · subst hclose
      cases depth with
      | zero => exact absurd (h rfl) (by simp)
      | succ depth =>
        have hturn : Token.turn (.sign ")") = -1 := by decide
        exact ⟨depth, by rw [hturn]; omega, by rw [itemOffsets]⟩
    · refine ⟨depth, by simp [Token.turn, hopen, hclose], ?_⟩
      rw [itemOffsets] <;> intros <;> simp_all

/-- A part is read as one item, if it has a token at all, and leaves its nesting behind. -/
lemma itemOffsets_part_append (h : Clear [.sign ")", .sign ";", .sign ","] 0 part)
    (rest : List (Token × Nat)) :
    ∃ depth : Nat, (depth : Int) = nesting part ∧ itemOffsets 0 true (part ++ rest) =
      (part.head?.map Prod.snd).toList ++ itemOffsets depth part.isEmpty rest := by
  -- Behind the first token no item is awaited, at whatever depth it leaves.
  have hbehind (part : List (Token × Nat)) : ∀ depth : Nat,
      Clear [.sign ")", .sign ";", .sign ","] depth part →
      ∃ depth' : Nat, (depth' : Int) = depth + nesting part ∧
        itemOffsets depth false (part ++ rest) = itemOffsets depth' false rest := by
    induction part with
    | nil => exact fun depth _ => ⟨depth, by simp, rfl⟩
    | cons e part ih =>
      intro depth hclear
      obtain ⟨hfirst, hpart⟩ := clear_cons_iff.mp hclear
      obtain ⟨depth', hdepth', hread⟩ :=
        itemOffsets_cons depth (by simpa using hfirst) false (part ++ rest)
      obtain ⟨depth'', hdepth'', hmore⟩ := ih depth' (by rwa [hdepth'])
      refine ⟨depth'', by rw [nesting_cons]; omega, ?_⟩
      rw [List.cons_append, hread, hmore]
      rfl
  cases part with
  | nil => exact ⟨0, rfl, rfl⟩
  | cons e part =>
    obtain ⟨hfirst, hpart⟩ := clear_cons_iff.mp h
    obtain ⟨depth, hdepth, hread⟩ := itemOffsets_cons 0 (by simpa using hfirst) true (part ++ rest)
    obtain ⟨depth', hdepth', hmore⟩ := hbehind part depth (by rwa [hdepth])
    refine ⟨depth', by rw [nesting_cons]; omega, ?_⟩
    rw [List.cons_append, hread, hmore]
    rfl

/-- Nothing more is found where the list has come to its end. -/
lemma itemOffsets_stop {depth : Nat}
    (h : ∀ e ∈ rest.head?, depth = 0 ∧ e.1 ∈ [Token.sign ")", .sign ";"]) (atStart : Bool) :
    itemOffsets depth atStart rest = [] := by
  cases rest with
  | nil => rw [itemOffsets]
  | cons e rest =>
    obtain ⟨token, offset⟩ := e
    obtain ⟨rfl, hend⟩ := h _ rfl
    rcases List.mem_pair.mp hend with rfl | rfl
    · rw [itemOffsets]
    · rw [itemOffsets]

/-- What is found of a list is where its parts start. -/
lemma itemOffsets_parted {listed : List (Token × Nat)} {parts : List (List (Token × Nat))}
    (hparts : Parted listed parts) (hlisted : UpTo [.sign ")", .sign ";"] 0 entries listed rest) :
    itemOffsets 0 true entries = parts.filterMap fun part => part.head?.map Prod.snd := by
  induction hparts generalizing entries with
  | @last listed h =>
    obtain ⟨depth, hdepth, hread⟩ :=
      itemOffsets_part_append (hlisted.clear.append_marks h.clear) rest
    have hstop : itemOffsets depth listed.isEmpty rest = [] := by
      refine itemOffsets_stop (fun e he => ?_) _
      obtain ⟨hnesting, hmark⟩ := hlisted.stops e he
      exact ⟨by omega, hmark⟩
    rw [hlisted.split, hread, hstop]
    cases listed <;> rfl
  | @comma listed part after parts comma h hrest ih =>
    obtain ⟨token, offset⟩ := comma
    obtain ⟨hnesting, hcomma⟩ := h.stops _ rfl
    obtain rfl : token = .sign "," := by simpa using hcomma
    obtain ⟨hpart, hafter⟩ := clear_append_iff.mp (h.split ▸ hlisted.clear)
    obtain ⟨depth, hdepth, hread⟩ :=
      itemOffsets_part_append (hpart.append_marks h.clear) ((.sign ",", offset) :: (after ++ rest))
    obtain rfl : depth = 0 := by omega
    have hcount : nesting listed = nesting after := by
      rw [h.split, nesting_append, nesting_cons, ← hdepth]
      simp [Token.turn]
    have hlisted' : UpTo [.sign ")", .sign ";"] 0 (after ++ rest) after rest := by
      refine ⟨rfl, ?_, hcount ▸ hlisted.stops⟩
      simpa [← hdepth, Token.turn] using (clear_cons_iff.mp hafter).2
    rw [hlisted.split, h.split, List.append_assoc, List.cons_append, hread, itemOffsets_comma,
      ih hlisted']
    cases part <;> rfl

/-! ### The whole list -/

/-- The depth after a token; `none` where one would be taken from a depth of zero. -/
def depthAfter? (depth : Nat) (token : Token) : Option Nat :=
  if token = .sign "(" then some (depth + 1)
  else if token = .sign ")" then if depth = 0 then none else some (depth - 1)
  else some depth

/-- The items of a list, with the depth counted up and down; `none` where one would be taken from a
depth of zero. -/
def itemOffsets? (depth : Nat) (atStart : Bool) : List (Token × Nat) → Option (List Nat)
  | [] => some []
  | (token, offset) :: rest =>
    if depth = 0 ∧ token ∈ [Token.sign ")", .sign ";"] then some []
    else if depth = 0 ∧ token = .sign "," then itemOffsets? 0 true rest
    else (depthAfter? depth token).bind fun depth' =>
      (itemOffsets? depth' false rest).map fun more =>
        (if atStart then [offset] else []) ++ more

/-- The items of the list that starts at `start`, with the depth counted up and down. -/
def listOffsets? (text : StatementText) (start : Nat) : Option (List Nat) :=
  itemOffsets? 0 true (text.tokens.filter fun entry => start ≤ entry.2)

lemma depthAfter?_eq {depth depth' : Nat} {token : Token} (h : (depth' : Int) = depth + token.turn) :
    depthAfter? depth token = some depth' := by
  unfold Token.turn at h
  unfold depthAfter?
  split_ifs at h ⊢ with hopen hclose hzero
  · exact congrArg some (by omega)
  · omega
  · exact congrArg some (by omega)
  · exact congrArg some (by omega)

/-- A closing parenthesis outside of all others ends the list before it is counted. -/
lemma itemOffsets?_eq (depth : Nat) (atStart : Bool) (entries : List (Token × Nat)) :
    itemOffsets? depth atStart entries = some (itemOffsets depth atStart entries) := by
  induction entries generalizing depth atStart with
  | nil => rfl
  | cons e rest ih =>
    obtain ⟨token, offset⟩ := e
    unfold itemOffsets?
    split
    · next hend =>
      rw [itemOffsets_stop (by simpa using hend)]
    · next hend =>
      split
      · next hcomma =>
        obtain ⟨rfl, rfl⟩ := hcomma
        rw [ih, itemOffsets_comma]
      · next hcomma =>
        obtain ⟨depth', hdepth', hread⟩ := itemOffsets_cons (e := (token, offset)) depth
          (fun hdepth hmark => by simp_all) atStart rest
        rw [depthAfter?_eq hdepth', Option.bind_some, ih, Option.map_some, hread]

lemma exists_start (hordered : Ordered entries) (start : Nat) :
    ∃ before after, entries = before ++ after ∧ (∀ e ∈ before, e.2 < start) ∧
      ∀ e ∈ after, start ≤ e.2 := by
  induction entries with
  | nil => exact ⟨[], [], rfl, by simp, by simp⟩
  | cons e entries ih =>
    obtain ⟨hfirst, hrest⟩ := List.pairwise_cons.mp hordered
    rcases Nat.lt_or_ge e.2 start with hlt | hle
    · obtain ⟨before, after, rfl, hbefore, hafter⟩ := ih hrest
      exact ⟨e :: before, after, rfl, List.forall_mem_cons.mpr ⟨hlt, hbefore⟩, hafter⟩
    · refine ⟨[], e :: entries, rfl, by simp, List.forall_mem_cons.mpr ⟨hle, fun d hd => ?_⟩⟩
      exact hle.trans (hfirst d hd).le

/-- **Lists.** A search for the items of a list, whatever the tokens are and wherever it starts,
never counts down from a depth of zero. It looks at the tokens from the start up to the first closing
parenthesis or semicolon that is not nested, or to the end, and finds just the offsets of the first
tokens of the parts between the commas that are not nested, in ascending order. -/
theorem listOffsets_parted {text : StatementText} (hordered : Ordered text.tokens) (start : Nat) :
    text.listOffsets? start = some (text.listOffsets start) ∧
      (∃ before after listed rest parts, text.tokens = before ++ after ∧
        (∀ e ∈ before, e.2 < start) ∧ (∀ e ∈ after, start ≤ e.2) ∧
        UpTo [.sign ")", .sign ";"] 0 after listed rest ∧ Parted listed parts ∧
        text.listOffsets start = parts.filterMap fun part => part.head?.map Prod.snd) ∧
      (text.listOffsets start).Pairwise (· < ·) := by
  obtain ⟨before, after, htokens, hbefore, hafter⟩ := exists_start hordered start
  obtain ⟨listed, rest, hlisted⟩ := exists_upTo [.sign ")", .sign ";"] 0 after
  obtain ⟨parts, hparts⟩ := exists_parted listed
  have hread := listOffsets_append htokens hbefore hafter
  refine ⟨itemOffsets?_eq 0 true _, ⟨before, after, listed, rest, parts, htokens, hbefore, hafter,
    hlisted, hparts, hread.trans (itemOffsets_parted hparts hlisted)⟩, ?_⟩
  have hoffsets : (text.tokens.map Prod.snd).Pairwise (· < ·) := List.pairwise_map.mpr hordered
  exact hoffsets.sublist
    ((itemOffsets_sublist 0 true _).trans (List.filter_sublist.map Prod.snd))

/-- The tokens of `(f(a, b), , c) d`. -/
def nestedList : StatementText where
  tokens := [(.sign "(", 0), (.word "f" none, 1), (.sign "(", 2), (.word "a" none, 3),
    (.sign ",", 4), (.word "b" none, 6), (.sign ")", 7), (.sign ",", 8), (.sign ",", 10),
    (.word "c" none, 12), (.sign ")", 13), (.word "d" none, 15)]
  lineStarts := [0]
  length := 16

theorem listOffsets_parted_nested :
    Ordered nestedList.tokens ∧ nestedList.listOffsets? 1 = some [1, 12] ∧
      nestedList.listOffsets? 3 = some [3, 6] := by
  have hordered : Ordered nestedList.tokens := by
    unfold Ordered
    decide
  exact ⟨hordered, (listOffsets_parted hordered 1).1.trans (by decide),
    (listOffsets_parted hordered 3).1.trans (by decide)⟩

end StatementText

end SelectBinding.Sql
