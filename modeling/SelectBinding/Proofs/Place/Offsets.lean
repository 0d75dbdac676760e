import Mathlib.Data.List.Pairwise
import SelectBinding.Proofs.Letters
import SelectBinding.Proofs.Place.Texts

/-!
Where the tokens of a text stand, and what is found by looking for them.

The tokens of a text are listed with the numbers of characters before them, which ascend. So looking
for a token from some offset on finds the first one that there is after what stands before this
offset, and the items of a list are found where the list begins.
-/

namespace SelectBinding.Sql

namespace StatementText

variable {dialect : Dialect} {sql : String} {tokens : List Located}

/-! ### Tokens -/

/-- The offsets of the tokens ascend. -/
def Ordered (entries : List (Token × Nat)) : Prop :=
  entries.Pairwise fun a b => a.2 < b.2

/-- What comes before an entry stands before it, and what comes after it stands after it. -/
lemma Ordered.around {before after : List (Token × Nat)} {e : Token × Nat}
    (h : Ordered (before ++ e :: after)) :
    (∀ d ∈ before, d.2 < e.2) ∧ ∀ d ∈ after, e.2 < d.2 := by
  obtain ⟨-, hafter, hbefore⟩ := List.pairwise_append.mp h
  exact ⟨fun d hd => hbefore d hd e List.mem_cons_self, (List.pairwise_cons.mp hafter).1⟩

lemma Standing.ordered {start : Nat} (h : Standing dialect sql start tokens) :
    Ordered (tokens.map (of dialect sql).entry) := by
  induction tokens generalizing start with
  | nil => exact List.Pairwise.nil
  | cons t rest ih =>
    obtain ⟨offset, -, hstands, hrest⟩ := h
    refine List.Pairwise.cons (fun e he => ?_) (ih hrest)
    obtain ⟨u, hu, rfl⟩ := List.mem_map.mp he
    rw [hstands.entry]
    exact (hrest.le_entry hu).1

lemma ordered_of (h : Tokenizer.tokenize dialect sql = .ok tokens) :
    Ordered (of dialect sql).tokens := by
  rw [tokens_of h]
  exact (standing_of_tokenize h).ordered

/-! ### Looking for tokens -/

section Looking

variable {text : StatementText} {before after : List (Token × Nat)} {found : Token × Nat}
  {start : Nat} {p : Token → Bool}

lemma findFrom?_eq (htokens : text.tokens = before ++ found :: after) (hfound : p found.1 = true)
    (hstart : start ≤ found.2) (hbefore : ∀ e ∈ before, e.2 < start ∨ p e.1 = false) :
    text.findFrom? start p = some found.2 := by
  have hnone : before.find? (fun e => decide (start ≤ e.2) && p e.1) = none := by
    refine List.find?_eq_none.mpr fun e he => ?_
    rcases hbefore e he with hlt | hp
    · simp [Nat.not_le.mpr hlt]
    · simp [hp]
  rw [findFrom?, htokens, List.find?_append, hnone, Option.none_or,
    List.find?_cons_of_pos (by simp [hstart, hfound]), Option.map_some]

/-- From a token on that will not do itself, the first one behind it that does is found. -/
lemma findFrom?_behind {e : Token × Nat} {between : List (Token × Nat)}
    (hordered : Ordered text.tokens)
    (htokens : text.tokens = before ++ e :: (between ++ found :: after))
    (hfound : p found.1 = true) (hnot : ∀ d ∈ e :: between, p d.1 = false) :
    text.findFrom? e.2 p = some found.2 := by
  rw [htokens] at hordered
  obtain ⟨hbefore, hafter⟩ := hordered.around
  have hsplit : text.tokens = (before ++ e :: between) ++ found :: after := by
    simpa using htokens
  refine findFrom?_eq hsplit hfound (hafter found (by simp)).le fun d hd => ?_
  rcases List.mem_append.mp hd with hd | hd
  · exact .inl (hbefore d hd)
  · exact .inr (hnot d hd)

/-- What is found stands no later than anything else that would do. -/
lemma findFrom?_le (hordered : Ordered text.tokens) (hmem : found ∈ text.tokens)
    (hfound : p found.1 = true) (hstart : start ≤ found.2) :
    ∃ offset, text.findFrom? start p = some offset ∧ start ≤ offset ∧ offset ≤ found.2 := by
  have hsome : (text.tokens.find? fun e => decide (start ≤ e.2) && p e.1).isSome = true :=
    List.find?_isSome.mpr ⟨found, hmem, by simp [hstart, hfound]⟩
  obtain ⟨e, he⟩ := Option.isSome_iff_exists.mp hsome
  obtain ⟨hp, before, after, htokens, hbefore⟩ := List.find?_eq_some_iff_append.mp he
  obtain ⟨hstart', -⟩ := by simpa using hp
  refine ⟨e.2, by rw [findFrom?, he, Option.map_some], hstart', ?_⟩
  rw [htokens] at hmem hordered
  rcases List.mem_append.mp hmem with hmem | hmem
  · have hnot := hbefore found hmem
    simp [hstart, hfound] at hnot
  · rcases List.mem_cons.mp hmem with rfl | hmem
    · exact le_rfl
    · exact (hordered.around.2 found hmem).le

/-- A list starts with the first token that does not stand before its start. -/
lemma listOffsets_append (htokens : text.tokens = before ++ after)
    (hbefore : ∀ e ∈ before, e.2 < start) (hafter : ∀ e ∈ after, start ≤ e.2) :
    text.listOffsets start = itemOffsets 0 true after := by
  have hnone : before.filter (fun e => decide (start ≤ e.2)) = [] := by
    refine List.filter_eq_nil_iff.mpr fun e he => ?_
    simpa using hbefore e he
  have hall : after.filter (fun e => decide (start ≤ e.2)) = after := by
    refine List.filter_eq_self.mpr fun e he => ?_
    simpa using hafter e he
  rw [listOffsets, htokens, List.filter_append, hnone, List.nil_append, hall]

/-- The list that starts behind a token is what comes after it. -/
lemma listOffsets_eq (hordered : Ordered text.tokens)
    (htokens : text.tokens = before ++ found :: after) :
    text.listOffsets (found.2 + 1) = itemOffsets 0 true after := by
  rw [htokens] at hordered
  obtain ⟨hbefore, hafter⟩ := hordered.around
  refine listOffsets_append (htokens.trans (List.append_cons before found after))
    (fun e he => ?_) hafter
  rcases List.mem_append.mp he with he | he
  · exact Nat.lt_succ_of_lt (hbefore e he)
  · obtain rfl := List.mem_singleton.mp he
    exact Nat.lt_succ_self _

end Looking

/-! ### Items -/

/-- The token neither parts the items of a list nor ends or nests one. -/
def IsPart (token : Token) : Prop :=
  token ∉ [Token.sign "(", .sign ")", .sign ",", .sign ";"]

lemma itemOffsets_part {token : Token} (h : IsPart token) (atStart : Bool) (offset : Nat)
    (rest : List (Token × Nat)) :
    itemOffsets 0 atStart ((token, offset) :: rest) =
      (if atStart then [offset] else []) ++ itemOffsets 0 false rest := by
  obtain ⟨hopen, hclose, hcomma, hend⟩ : token ≠ .sign "(" ∧ token ≠ .sign ")" ∧
      token ≠ .sign "," ∧ token ≠ .sign ";" := by
    simpa [IsPart] using h
  rw [itemOffsets] <;> simp [hopen, hclose, hcomma, hend]

lemma itemOffsets_parts {used rest : List (Token × Nat)} (h : ∀ e ∈ used, IsPart e.1) :
    itemOffsets 0 false (used ++ rest) = itemOffsets 0 false rest := by
  induction used with
  | nil => rfl
  | cons e used ih =>
    obtain ⟨token, offset⟩ := e
    obtain ⟨hpart, hused⟩ := List.forall_mem_cons.mp h
    rw [List.cons_append, itemOffsets_part hpart, ih hused]
    rfl

lemma itemOffsets_comma (atStart : Bool) (offset : Nat) (rest : List (Token × Nat)) :
    itemOffsets 0 atStart ((.sign ",", offset) :: rest) = itemOffsets 0 true rest := by
  rw [itemOffsets]

/-- The first item starts no later than any token that neither parts nor ends nor nests items. -/
lemma head?_itemOffsets_le {entries : List (Token × Nat)} (hordered : Ordered entries)
    {e : Token × Nat} (he : e ∈ entries) (hpart : IsPart e.1) :
    ∀ offset ∈ (itemOffsets 0 true entries).head?, offset ≤ e.2 := by
  induction entries with
  | nil => cases he
  | cons first rest ih =>
    obtain ⟨token, offset⟩ := first
    obtain ⟨hfirst, hrest⟩ := List.pairwise_cons.mp hordered
    have hle : offset ≤ e.2 := by
      rcases List.mem_cons.mp he with rfl | he
      · exact le_rfl
      · exact (hfirst e he).le
    unfold itemOffsets
    extract_lets here
    split
    · simp
    · simp
    · rcases List.mem_cons.mp he with rfl | he
      · exact absurd hpart (by simp [IsPart])
      · exact ih hrest he
    iterate 3
      · simpa [here] using hle

/-! ### The words before the criteria -/

/-- The word `ORDER` is among the tokens, and the word `BY` somewhere after it. -/
def SpellsOrderBy (tokens : List Token) : Prop :=
  ∃ before order between by_ after, tokens = before ++ order :: (between ++ by_ :: after) ∧
    isBareWord "ORDER" order = true ∧ isBareWord "BY" by_ = true

lemma isPart_of_isBareWord {word : String} {token : Token} (h : isBareWord word token = true) :
    IsPart token := by
  cases token <;> simp_all [isBareWord, IsPart]

lemma isPart_of_isKeyword {word : String} {token : Token} (h : token.isKeyword word = true) :
    IsPart token := by
  rcases token with ⟨value, _ | quote⟩ | _ <;>
    simp_all [Token.isKeyword, Token.keyword?, IsPart]

/-- A character becomes one letter, the same up to its case, unless this is a letter that other
characters than ASCII letters become as well. -/
lemma capitals_cases (c : Char) :
    (Token.capitals c).map Char.toLower = [c.toLower] ∨
      ∃ x more, Token.capitals c = x :: more ∧ x ∈ ['I', 'S', 'F'] := by
  by_cases hc : c.toNat < 128
  · exact .inl (Name.forall_ascii (P := fun c => (Token.capitals c).map Char.toLower = [c.toLower])
      (by decide) hc)
  · have hlower : c.isLower = false := by
      refine Bool.eq_false_iff.mpr fun h => hc ?_
      have hle : c.toNat ≤ 122 := of_decide_eq_true (Bool.and_eq_true_iff.mp h).2
      omega
    unfold Token.capitals
    rw [if_neg (by simp [hlower]), if_neg hc]
    split
    iterate 10
      · exact .inr ⟨_, _, rfl, by simp⟩
    · exact .inl rfl

lemma sameLetters_of_capitals {cs word : List Char} (hword : ∀ c ∈ word, c ∉ ['I', 'S', 'F'])
    (h : cs.flatMap Token.capitals = word) : Name.sameLetters cs word = true := by
  induction cs generalizing word with
  | nil =>
    subst h
    rfl
  | cons c cs ih =>
    subst h
    rw [Name.sameLetters_iff, List.flatMap_cons, List.map_append, List.map_cons]
    rcases capitals_cases c with hone | ⟨x, more, hx, hmem⟩
    · rw [hone, (Name.sameLetters_iff _ _).mp (ih (fun d hd => hword d (by simp_all)) rfl)]
      rfl
    · exact absurd hmem (hword x (by simp [hx]))

/-- A keyword whose letters nothing but ASCII letters become is spelled by them. -/
lemma isBareWord_of_isKeyword {word : String} (hword : ∀ c ∈ word.toList, c ∉ ['I', 'S', 'F'])
    {token : Token} (h : token.isKeyword word = true) : isBareWord word token = true := by
  rcases token with ⟨value, _ | quote⟩ | _
  · have hvalue : Token.capitalized value = word := by
      simpa [Token.isKeyword, Token.keyword?] using h
    exact sameLetters_of_capitals hword (by rw [← hvalue, Token.capitalized, String.toList_ofList])
  all_goals cases h

lemma isBareWord_order {token : Token} (h : token.isKeyword "ORDER" = true) :
    isBareWord "ORDER" token = true :=
  isBareWord_of_isKeyword (by simp) h

lemma isBareWord_by {token : Token} (h : token.isKeyword "BY" = true) :
    isBareWord "BY" token = true :=
  isBareWord_of_isKeyword (by simp) h

lemma isBareWord_by_of_order {token : Token} (h : isBareWord "ORDER" token = true) :
    isBareWord "BY" token = false := by
  rcases token with ⟨value, _ | quote⟩ | _
  · have hnot : Name.agree "ORDER" "BY" = false := by decide
    rw [isBareWord, Name.agree_congr_left h, hnot]
  all_goals cases h

section Words

variable {text : StatementText} {before select after : List (Token × Nat)}
  {order by_ : Token × Nat} {start : Nat}

variable (hordered : Ordered text.tokens)
  (htokens : text.tokens = before ++ select ++ order :: by_ :: after)
  (horder : isBareWord "ORDER" order.1 = true)

include hordered htokens horder

/-- Without the words in the select, the ones that are found are those after it. -/
lemma orderBy_found (hby : isBareWord "BY" by_.1 = true) (hbefore : ∀ e ∈ before, e.2 < start)
    (hselect : ∀ e ∈ select, start ≤ e.2) (hstart : start ≤ order.2)
    (hclear : ¬ SpellsOrderBy (select.map Prod.fst)) :
    ∃ o, text.keywordOffset? "ORDER" start = some o ∧
      text.keywordOffset? "BY" o = some by_.2 := by
  cases hfind : select.find? fun e => isBareWord "ORDER" e.1 with
  | none =>
    refine ⟨order.2, findFrom?_eq htokens horder hstart fun e he => ?_, ?_⟩
    · rcases List.mem_append.mp he with he | he
      · exact .inl (hbefore e he)
      · exact .inr (by simpa using List.find?_eq_none.mp hfind e he)
    · have hsplit : text.tokens = (before ++ select) ++ order :: ([] ++ by_ :: after) := htokens
      refine findFrom?_behind hordered hsplit hby fun d hd => ?_
      obtain rfl := List.mem_singleton.mp hd
      exact isBareWord_by_of_order horder
  | some e =>
    -- The select has the first word, and so it has nowhere the second one behind it.
    obtain ⟨he, pre, post, rfl, hpre⟩ := List.find?_eq_some_iff_append.mp hfind
    have hpost : ∀ d ∈ post, isBareWord "BY" d.1 = false := by
      intro d hd
      obtain ⟨between, rest, rfl⟩ := List.append_of_mem hd
      refine Bool.eq_false_iff.mpr fun hword => hclear ?_
      exact ⟨pre.map Prod.fst, e.1, between.map Prod.fst, d.1, rest.map Prod.fst, by simp, he,
        hword⟩
    have hsplit : text.tokens = (before ++ pre) ++ e :: (post ++ order :: by_ :: after) := by
      simpa using htokens
    refine ⟨e.2, findFrom?_eq hsplit he (hselect e (by simp)) fun d hd => ?_, ?_⟩
    · rcases List.mem_append.mp hd with hd | hd
      · exact .inl (hbefore d hd)
      · exact .inr (by simpa using hpre d hd)
    · have hsplit : text.tokens = (before ++ pre) ++ e :: ((post ++ [order]) ++ by_ :: after) := by
        simpa using htokens
      refine findFrom?_behind hordered hsplit hby ?_
      simp only [List.forall_mem_cons, List.forall_mem_append]
      exact ⟨isBareWord_by_of_order he, hpost, isBareWord_by_of_order horder, by simp⟩

/-- With the words in the select, what is found is a list that begins before the sorting does. -/
lemma orderBy_missed (hselect : ∀ e ∈ select, start ≤ e.2)
    (hspells : SpellsOrderBy (select.map Prod.fst)) :
    ∃ o b, text.keywordOffset? "ORDER" start = some o ∧ text.keywordOffset? "BY" o = some b ∧
      ∀ offset ∈ (text.listOffsets (b + 1)).head?, offset ≤ order.2 := by
  obtain ⟨pre, first, between, second, post, hsplit, hfirst, hsecond⟩ := hspells
  obtain ⟨pre', rest, rfl, hpre, hrest⟩ := List.map_eq_append_iff.mp hsplit
  obtain ⟨e, rest', rfl, he, hrest'⟩ := List.map_eq_cons_iff.mp hrest
  obtain ⟨between', post', rfl, -, hpost⟩ := List.map_eq_append_iff.mp hrest'
  obtain ⟨d, post'', rfl, hd, -⟩ := List.map_eq_cons_iff.mp hpost
  have hd_order : d.2 < order.2 := (htokens ▸ hordered).around.1 d (by simp)
  have he_d : e.2 < d.2 := by
    have hsplit : text.tokens = (before ++ pre') ++
        e :: (between' ++ d :: post'' ++ order :: by_ :: after) := by simpa using htokens
    exact (hsplit ▸ hordered).around.2 d (by simp)
  have he_mem : e ∈ text.tokens := by simp [htokens]
  have hd_mem : d ∈ text.tokens := by simp [htokens]
  rw [← he] at hfirst
  rw [← hd] at hsecond
  obtain ⟨o, ho, -, ho_e⟩ := findFrom?_le hordered he_mem hfirst (hselect e (by simp))
  obtain ⟨b, hb, -, hb_d⟩ := findFrom?_le hordered hd_mem hsecond (ho_e.trans he_d.le)
  refine ⟨o, b, ho, hb, ?_⟩
  refine head?_itemOffsets_le (hordered.sublist List.filter_sublist) ?_
    (isPart_of_isBareWord horder)
  exact List.mem_filter.mpr ⟨by simp [htokens], by simp only [decide_eq_true_eq]; omega⟩

end Words

end StatementText

end SelectBinding.Sql
