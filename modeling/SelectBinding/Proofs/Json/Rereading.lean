import Mathlib.Data.Fintype.Basic
import Mathlib.Tactic.Lemma
import SelectBinding.Decimal.Numeral
import SelectBinding.Json.Read
import SelectBinding.Json.Write
import SelectBinding.Proofs.Outcome

/-!
Values written as JSON text over several lines are read back from it.

The reader of a value stops where the value ends, so what it reads is settled by the value and by
how the text goes on: only a number could go on with more digits. A value needs no more steps than
its text has characters.
-/

namespace SelectBinding.Json

/-! ### Blanks -/

lemma skipBlanks_append {blanks : List Char} (h : ∀ c ∈ blanks, isBlank c = true)
    (rest : List Char) : skipBlanks (blanks ++ rest) = skipBlanks rest :=
  List.dropWhile_append_of_pos h

lemma skipBlanks_of_not_blank {c : Char} (h : isBlank c = false) (rest : List Char) :
    skipBlanks (c :: rest) = c :: rest := by
  simp [skipBlanks, h]

@[simp] lemma skipBlanks_skipBlanks (cs : List Char) :
    skipBlanks (skipBlanks cs) = skipBlanks cs := by
  cases hcs : skipBlanks cs with
  | nil => rfl
  | cons c rest =>
    have hhead : (skipBlanks cs).head? = some c := by rw [hcs]; rfl
    have hblank := List.head?_dropWhile_not isBlank cs
    rw [skipBlanks] at hhead
    rw [hhead] at hblank
    exact skipBlanks_of_not_blank (by simpa using hblank) rest

lemma newLine_blank (level : Nat) : ∀ c ∈ (newLine level).toList, isBlank c = true := by
  intro c hc
  simp only [newLine, String.toList_append, String.toList_ofList, List.mem_append,
    List.mem_replicate] at hc
  rcases hc with hc | ⟨-, rfl⟩
  · obtain rfl : c = '\n' := by simpa using hc
    rfl
  · rfl

lemma readValue_skipBlanks (steps : Nat) (cs : List Char) :
    readValue steps (skipBlanks cs) = readValue steps cs := by
  cases steps with
  | zero => simp only [readValue]
  | succ steps => simp only [readValue, skipBlanks_skipBlanks]

lemma readItems_skipBlanks (steps : Nat) (done : List Data) (cs : List Char) :
    readItems steps done (skipBlanks cs) = readItems steps done cs := by
  cases steps with
  | zero => simp only [readItems]
  | succ steps => simp only [readItems, readValue_skipBlanks]

lemma readMembers_skipBlanks (steps : Nat) (done : List (Option String × Data)) (cs : List Char) :
    readMembers steps done (skipBlanks cs) = readMembers steps done cs := by
  cases steps with
  | zero => simp only [readMembers]
  | succ steps => simp only [readMembers, readKey, skipBlanks_skipBlanks]

/-! ### Strings -/

/-- A control character is read back from its code. -/
lemma hexValue4?_control {c : Char} (h : c.toNat < 0x20) :
    hexValue4? '0' '0' (hexDigit (c.toNat / 16)) (hexDigit (c.toNat % 16)) = some c.toNat := by
  have hall : ∀ n : Fin 0x20,
      hexValue4? '0' '0' (hexDigit (n.val / 16)) (hexDigit (n.val % 16)) = some n.val := by
    decide
  exact hall ⟨c.toNat, h⟩

/-- A whole character, however it is written, is read as itself. -/
lemma readString_escape (done : List Char) (c : Char) (rest : List Char) :
    readString ⟨done, none, false⟩ (escape c ++ rest) =
      readString ⟨c :: done, none, false⟩ rest := by
  by_cases hquote : c = '"'
  · subst c; simp [escape, readString, escaped?, Draft.push]
  by_cases hbackslash : c = '\\'
  · subst c; simp [escape, readString, escaped?, Draft.push]
  by_cases hfeed : c = '\n'
  · subst c; simp [escape, readString, escaped?, Draft.push]
  by_cases hreturn : c = '\r'
  · subst c; simp [escape, readString, escaped?, Draft.push]
  by_cases htab : c = '\t'
  · subst c; simp [escape, readString, escaped?, Draft.push]
  by_cases hback : c.toNat = 8
  · obtain rfl : c = Char.ofNat 8 := by rw [← hback, Char.ofNat_toNat]
    simp [escape, readString, escaped?, Draft.push]
  by_cases hform : c.toNat = 12
  · obtain rfl : c = Char.ofNat 12 := by rw [← hform, Char.ofNat_toNat]
    simp [escape, readString, escaped?, Draft.push]
  by_cases hcontrol : c.toNat < 0x20
  · have hunit : ¬ (0xD800 ≤ c.toNat ∧ c.toNat < 0xDC00) ∧
        ¬ (0xDC00 ≤ c.toNat ∧ c.toNat < 0xE000) := by
      omega
    simp [escape, hquote, hbackslash, hfeed, hreturn, htab, hback, hform, hcontrol, readString,
      hexValue4?_control hcontrol, Draft.pushUnit, hunit, Draft.push]
  -- What is left is written as it is.
  · simp only [escape, hquote, hbackslash, hfeed, hreturn, htab, hback, hform, hcontrol, if_false,
      List.singleton_append]
    rw [readString.eq_def]
    split <;> simp_all [Draft.push]

/-- A string is read up to its closing quote. -/
lemma readString_escaped (done cs rest : List Char) :
    readString ⟨done, none, false⟩ (cs.flatMap escape ++ '"' :: rest) =
      some (.text (String.ofList (done.reverse ++ cs)), rest) := by
  induction cs generalizing done with
  | nil => simp [readString, Draft.finish]
  | cons c cs ih =>
    rw [List.flatMap_cons, List.append_assoc, readString_escape, ih]
    simp

lemma toList_writeString (s : String) :
    (writeString s).toList = '"' :: (s.toList.flatMap escape ++ ['"']) := by
  simp [writeString]

/-- **Strings.** A string is read back, whatever its characters are. -/
lemma readScalar_string (s : String) (rest : List Char) :
    readScalar ((writeString s).toList ++ rest) = some (.text s, rest) := by
  rw [toList_writeString]
  simpa [readScalar] using readString_escaped [] s.toList rest

/-! ### Numbers -/

/-- The text goes on with nothing that could belong to a number. -/
def EndsNumber (rest : List Char) : Prop :=
  ∀ c ∈ rest.head?, c.isDigit = false ∧ c ≠ '.' ∧ c ≠ 'e' ∧ c ≠ 'E'

/-- Only zero is spelled with a zero in front. -/
lemma head?_toDigits {n : Nat} (h : n ≠ 0) : (Nat.toDigits 10 n).head? ≠ some '0' := by
  induction n using Nat.strongRecOn with
  | ind n ih =>
    by_cases hsmall : n < 10
    · have hdigit : ∀ d : Fin 10, d.val ≠ 0 → d.val.digitChar ≠ '0' := by decide
      rw [Nat.toDigits_of_lt_base hsmall]
      simpa using hdigit ⟨n, hsmall⟩ h
    · rw [Nat.toDigits_of_base_le (by decide) (by omega),
        List.head?_append_of_ne_nil _ Nat.toDigits_ne_nil]
      exact ih (n / 10) (by omega) (by omega)

lemma readWhole_toDigits (n : Nat) {rest : List Char} (h : EndsNumber rest) :
    readWhole (Nat.toDigits 10 n ++ rest) = some (Nat.toDigits 10 n, rest) := by
  by_cases hn : n = 0
  · subst hn
    rfl
  have hhead := head?_toDigits hn
  have hrun := takeWhile_append_of_stop (Decimal.all_toDigits n) fun c hc => (h c hc).1
  have hne : Nat.toDigits 10 n ≠ [] := Nat.toDigits_ne_nil
  rw [readWhole.eq_def]
  split
  · rename_i rest' heq
    refine absurd ?_ hhead
    rw [← List.head?_append_of_ne_nil _ hne, heq]
    rfl
  · rw [readDigits, hrun.1, hrun.2]
    simp [hne]

lemma readUnsigned_toDigits (n : Nat) {rest : List Char} (h : EndsNumber rest) :
    readUnsigned [] (Nat.toDigits 10 n ++ rest) = some (.nat n, rest) := by
  have hfraction : readFraction rest = some ([], rest) := by
    rw [readFraction.eq_def]
    split
    · exact absurd rfl (h '.' rfl).2.1
    · rfl
  have hexponent : readExponent rest = some ([], rest) := by
    cases rest with
    | nil => rfl
    | cons c rest =>
      have hc := h c rfl
      simp [readExponent, hc]
  have hspelling : toString n = String.ofList (Nat.toDigits 10 n) := by
    rw [← String.toList_inj, String.toList_ofList, Nat.toString_eq_repr, Nat.toList_repr]
  simp [readUnsigned, readWhole_toDigits n h, hfraction, hexponent, Data.nat, hspelling]

/-! ### Values -/

/-- Where no array and no object begins, a value is a word, a number or a string. -/
lemma readValue_scalar {c : Char} (hblank : isBlank c = false) (hopen : c ∉ ['[', '\x7b'])
    (steps : Nat) (cs : List Char) : readValue (steps + 1) (c :: cs) = readScalar (c :: cs) := by
  simp only [List.mem_cons, List.not_mem_nil, or_false, not_or] at hopen
  simp only [readValue, skipBlanks_of_not_blank hblank]
  split
  · rename_i heq
    exact absurd (List.cons.inj heq).1 hopen.1
  · rename_i heq
    exact absurd (List.cons.inj heq).1 hopen.2
  · rfl

/-- Items follow an opening bracket unless the closing one does. -/
lemma readValue_list {c : Char} {cs rest : List Char} (h : skipBlanks cs = c :: rest)
    (hclose : c ≠ ']') (steps : Nat) :
    readValue (steps + 1) ('[' :: cs) = readItems steps [] cs := by
  have hopen : skipBlanks ('[' :: cs) = '[' :: cs := skipBlanks_of_not_blank rfl cs
  simp only [readValue, hopen]
  rw [← readItems_skipBlanks steps [] cs, h]
  split
  · rename_i heq
    exact absurd (List.cons.inj heq).1 hclose
  · rfl

/-- Members follow an opening brace unless the closing one does. -/
lemma readValue_record {c : Char} {cs rest : List Char} (h : skipBlanks cs = c :: rest)
    (hclose : c ≠ '\x7d') (steps : Nat) :
    readValue (steps + 1) ('\x7b' :: cs) = readMembers steps [] cs := by
  have hopen : skipBlanks ('\x7b' :: cs) = '\x7b' :: cs := skipBlanks_of_not_blank rfl cs
  simp only [readValue, hopen]
  rw [← readMembers_skipBlanks steps [] cs, h]
  split
  · rename_i heq
    exact absurd (List.cons.inj heq).1 hclose
  · rfl

/-! ### Values that are a piece of text -/

/-- The value is read back from its text, whatever follows at which a number may end. The text does
not begin like the end of a list. -/
structure Rereads (value : Data) : Prop where
  starts (level : Nat) : ∃ c cs, (writeIndented level value).toList = c :: cs ∧
    isBlank c = false ∧ c ≠ ']'
  reads (level steps : Nat) (rest : List Char) : EndsNumber rest →
    (writeIndented level value).toList.length ≤ steps →
      readValue steps ((writeIndented level value).toList ++ rest) = some (value, rest)

/-- A value that is a piece of text needs only one step. -/
lemma Rereads.of_scalar {value : Data} (c : Char) (cs : List Char)
    (htext : ∀ level, (writeIndented level value).toList = c :: cs) (hblank : isBlank c = false)
    (hmarks : c ∉ ['[', ']', '\x7b'])
    (h : ∀ rest, EndsNumber rest → readScalar (c :: cs ++ rest) = some (value, rest)) :
    Rereads value := by
  simp only [List.mem_cons, List.not_mem_nil, or_false, not_or] at hmarks
  refine ⟨fun level => ⟨c, cs, htext level, hblank, hmarks.2.1⟩, fun level steps rest hends hsteps =>
    ?_⟩
  rw [htext] at hsteps ⊢
  obtain ⟨steps, rfl⟩ : ∃ n, steps = n + 1 := ⟨steps - 1, by simp at hsteps; omega⟩
  rw [← h rest hends]
  exact readValue_scalar hblank (by simp [hmarks]) steps (cs ++ rest)

lemma rereads_null : Rereads .null :=
  .of_scalar 'n' ['u', 'l', 'l'] (fun _ => by simp [writeIndented]) rfl (by decide) fun _ _ => rfl

lemma rereads_bool (value : Bool) : Rereads (.bool value) := by
  cases value with
  | false =>
    exact .of_scalar 'f' ['a', 'l', 's', 'e'] (fun _ => by simp [writeIndented]) rfl (by decide)
      fun _ _ => rfl
  | true =>
    exact .of_scalar 't' ['r', 'u', 'e'] (fun _ => by simp [writeIndented]) rfl (by decide)
      fun _ _ => rfl

lemma rereads_text (value : String) : Rereads (.text value) := by
  refine .of_scalar '"' _ (fun _ => by simpa [writeIndented] using toList_writeString value) rfl (by decide) fun rest _ => ?_
  rw [← toList_writeString]
  exact readScalar_string value rest

/-- A value that begins with a digit is a number. -/
lemma readScalar_digit {c : Char} (h : c.isDigit = true) (cs : List Char) :
    readScalar (c :: cs) = readUnsigned [] (c :: cs) := by
  unfold readScalar
  split <;> simp_all

lemma rereads_nat (n : Nat) : Rereads (.nat n) := by
  obtain ⟨c, cs, hcs⟩ := List.exists_cons_of_ne_nil (Nat.toDigits_ne_nil (n := n) (b := 10))
  have hdigit : c.isDigit = true :=
    List.all_eq_true.mp (Decimal.all_toDigits n) c (by simp [hcs])
  have hother : ∀ d, d.isDigit = false → c ≠ d := by
    rintro d hd rfl
    simp [hdigit] at hd
  refine .of_scalar c cs (fun level => by simp [writeIndented, Data.nat, hcs]) ?_ ?_
    fun rest hends => ?_
  · simp [isBlank, hother]
  · simp [hother]
  · rw [List.cons_append, readScalar_digit hdigit, ← List.cons_append, ← hcs]
    exact readUnsigned_toDigits n hends

/-! ### Lists and records -/

lemma readValue_newLine (steps level : Nat) (cs : List Char) :
    readValue steps ((newLine level).toList ++ cs) = readValue steps cs := by
  rw [← readValue_skipBlanks steps, skipBlanks_append (newLine_blank level), readValue_skipBlanks]

lemma readValue_blank (steps : Nat) (cs : List Char) :
    readValue steps (' ' :: cs) = readValue steps cs := by
  rw [← readValue_skipBlanks steps, ← List.singleton_append, skipBlanks_append (by simp [isBlank]),
    readValue_skipBlanks]

lemma endsNumber_comma (cs : List Char) : EndsNumber (',' :: cs) := by
  simp [EndsNumber]

lemma toList_writeIndentedItems_cons (level : Nat) (item next : Data) (items : List Data) :
    (writeIndentedItems level (item :: next :: items)).toList =
      (newLine level).toList ++ ((writeIndented level item).toList ++
        ',' :: (writeIndentedItems level (next :: items)).toList) := by
  simp [writeIndentedItems]

/-- Items are read one after the other up to the closing bracket. -/
lemma readItems_written {level steps : Nat} {items done : List Data} {after rest : List Char}
    (h : ∀ item ∈ items, Rereads item) (hne : items ≠ [])
    (hsteps : (writeIndentedItems level items).toList.length < steps) (hends : EndsNumber after)
    (hafter : skipBlanks after = ']' :: rest) :
    readItems steps done ((writeIndentedItems level items).toList ++ after) =
      some (.list (done.reverse ++ items), rest) := by
  induction items generalizing steps done with
  | nil => contradiction
  | cons item items ih =>
    obtain ⟨steps, rfl⟩ : ∃ n, steps = n + 1 := ⟨steps - 1, by omega⟩
    have hitem := (h item (by simp)).reads level steps
    cases items with
    | nil =>
      simp only [writeIndentedItems, String.toList_append, List.length_append] at hsteps ⊢
      have hread := hitem after hends (by omega)
      rw [List.append_assoc]
      simp only [readItems, readValue_newLine, hread, hafter]
      simp
    | cons next items =>
      rw [toList_writeIndentedItems_cons] at hsteps ⊢
      simp only [List.length_append, List.length_cons] at hsteps
      have hread := hitem (',' :: ((writeIndentedItems level (next :: items)).toList ++ after))
        (endsNumber_comma _) (by omega)
      have hmore : readItems steps (item :: done)
          ((writeIndentedItems level (next :: items)).toList ++ after) =
            some (.list ((item :: done).reverse ++ next :: items), rest) :=
        ih (fun item hmem => h item (by simp [hmem])) (by simp) (by omega)
      simp only [List.append_assoc, List.cons_append, readItems, readValue_newLine, hread,
        skipBlanks_of_not_blank (c := ',') rfl, hmore]
      simp

/-- The text of a member. -/
def writeMember (level : Nat) (member : String × Data) : List Char :=
  (newLine level).toList ++ ((writeString member.1).toList ++
    ':' :: ' ' :: (writeIndented level member.2).toList)

lemma toList_writeIndentedMembers_single (level : Nat) (member : String × Data) :
    (writeIndentedMembers level [member]).toList = writeMember level member := by
  simp [writeIndentedMembers, writeMember]

lemma toList_writeIndentedMembers_cons (level : Nat) (member next : String × Data)
    (members : List (String × Data)) :
    (writeIndentedMembers level (member :: next :: members)).toList =
      writeMember level member ++ ',' :: (writeIndentedMembers level (next :: members)).toList := by
  simp [writeIndentedMembers, writeMember]

/-- A key is read up to the colon. -/
lemma readKey_written (level : Nat) (key : String) (rest : List Char) :
    readKey ((newLine level).toList ++ ((writeString key).toList ++ ':' :: rest)) =
      some (some key, rest) := by
  rw [readKey, skipBlanks_append (newLine_blank level), toList_writeString]
  simp only [List.cons_append, List.append_assoc, List.nil_append,
    skipBlanks_of_not_blank (c := '"') rfl]
  have hread := readString_escaped [] key.toList (':' :: rest)
  rw [List.reverse_nil, List.nil_append, String.ofList_toList] at hread
  rw [hread]
  simp only [skipBlanks_of_not_blank (c := ':') rfl]

/-- The member as it is read. -/
def keyed (member : String × Data) : Option String × Data :=
  (some member.1, member.2)

lemma objectOf_keyed (members : List (String × Data)) :
    objectOf (members.map keyed).reverse = .record members := by
  have hkeys := mapM_map_eq_some (l := members.reverse) (g := keyed) (k := id)
    (f := fun m : Option String × Data => m.1.map fun key => (key, m.2)) fun _ _ => rfl
  rw [List.map_reverse, List.map_id] at hkeys
  unfold objectOf
  simp only [hkeys]
  rw [List.reverse_reverse]

/-- Members are read one after the other up to the closing brace. -/
lemma readMembers_written {level steps : Nat} {members : List (String × Data)}
    {done : List (Option String × Data)} {after rest : List Char}
    (h : ∀ member ∈ members, Rereads member.2) (hne : members ≠ [])
    (hsteps : (writeIndentedMembers level members).toList.length < steps)
    (hends : EndsNumber after) (hafter : skipBlanks after = '\x7d' :: rest) :
    readMembers steps done ((writeIndentedMembers level members).toList ++ after) =
      some (objectOf ((members.map keyed).reverse ++ done), rest) := by
  induction members generalizing steps done with
  | nil => contradiction
  | cons member members ih =>
    obtain ⟨steps, rfl⟩ : ∃ n, steps = n + 1 := ⟨steps - 1, by omega⟩
    have hvalue := (h member (by simp)).reads level steps
    cases members with
    | nil =>
      rw [toList_writeIndentedMembers_single, writeMember] at hsteps ⊢
      simp only [List.length_append, List.length_cons] at hsteps
      have hread := hvalue after hends (by omega)
      simp only [List.append_assoc, List.cons_append, readMembers, readKey_written,
        readValue_blank, hread, hafter]
      simp [keyed]
    | cons next members =>
      rw [toList_writeIndentedMembers_cons, writeMember] at hsteps ⊢
      simp only [List.length_append, List.length_cons] at hsteps
      have hread := hvalue (',' :: ((writeIndentedMembers level (next :: members)).toList ++ after))
        (endsNumber_comma _) (by omega)
      have hmore : readMembers steps (keyed member :: done)
          ((writeIndentedMembers level (next :: members)).toList ++ after) =
            some (objectOf (((next :: members).map keyed).reverse ++ keyed member :: done), rest) :=
        ih (fun member hmem => h member (by simp [hmem])) (by simp) (by omega)
      simp only [List.append_assoc, List.cons_append, readMembers, readKey_written,
        readValue_blank, hread, skipBlanks_of_not_blank (c := ',') rfl]
      rw [← keyed, hmore]
      simp

/-! ### Brackets and braces -/

/-- A closing mark on a line of its own ends what stands before it. -/
lemma closing_line (level : Nat) (rest : List Char) {c : Char} (h : isBlank c = false) :
    EndsNumber ((newLine level).toList ++ c :: rest) ∧
      skipBlanks ((newLine level).toList ++ c :: rest) = c :: rest := by
  refine ⟨by simp [EndsNumber, newLine], ?_⟩
  rw [skipBlanks_append (newLine_blank level), skipBlanks_of_not_blank h]

/-- The first item stands between the opening bracket and the closing one. -/
lemma items_start {item : Data} (h : Rereads item) (level : Nat) (items : List Data)
    (after : List Char) :
    ∃ c cs, skipBlanks ((writeIndentedItems level (item :: items)).toList ++ after) = c :: cs ∧
      c ≠ ']' := by
  obtain ⟨c, cs, hcs, hblank, hclose⟩ := h.starts level
  have hbegin : ∃ more, (writeIndentedItems level (item :: items)).toList =
      (newLine level).toList ++ c :: more := by
    cases items with
    | nil => exact ⟨cs, by simp [writeIndentedItems, hcs]⟩
    | cons next items =>
      rw [toList_writeIndentedItems_cons, hcs]
      exact ⟨_, rfl⟩
  obtain ⟨more, hmore⟩ := hbegin
  refine ⟨c, more ++ after, ?_, hclose⟩
  rw [hmore, List.append_assoc, skipBlanks_append (newLine_blank level), List.cons_append,
    skipBlanks_of_not_blank hblank]

/-- The first member stands between the opening brace and the closing one. -/
lemma members_start (level : Nat) (member : String × Data) (members : List (String × Data))
    (after : List Char) :
    ∃ cs, skipBlanks ((writeIndentedMembers level (member :: members)).toList ++ after) =
      '"' :: cs := by
  have hbegin : ∃ more, (writeIndentedMembers level (member :: members)).toList =
      (newLine level).toList ++ '"' :: more := by
    cases members with
    | nil =>
      rw [toList_writeIndentedMembers_single, writeMember, toList_writeString]
      exact ⟨_, rfl⟩
    | cons next members =>
      rw [toList_writeIndentedMembers_cons, writeMember, toList_writeString, List.append_assoc]
      exact ⟨_, rfl⟩
  obtain ⟨more, hmore⟩ := hbegin
  refine ⟨more ++ after, ?_⟩
  rw [hmore, List.append_assoc, skipBlanks_append (newLine_blank level)]
  rfl

/-- A list is read back when its items are. -/
lemma rereads_list {items : List Data} (h : ∀ item ∈ items, Rereads item) :
    Rereads (.list items) := by
  cases items with
  | nil =>
    have htext : ∀ level, (writeIndented level (.list [])).toList = ['[', ']'] := by
      simp [writeIndented]
    refine ⟨fun level => ⟨'[', [']'], htext level, rfl, by decide⟩,
      fun level steps rest _ hsteps => ?_⟩
    rw [htext] at hsteps ⊢
    obtain ⟨steps, rfl⟩ : ∃ n, steps = n + 1 := ⟨steps - 1, by simp at hsteps; omega⟩
    rfl
  | cons item items =>
    have htext : ∀ level, (writeIndented level (.list (item :: items))).toList =
        '[' :: ((writeIndentedItems (level + 1) (item :: items)).toList ++
          ((newLine level).toList ++ [']'])) := by
      simp [writeIndented]
    refine ⟨fun level => ⟨'[', _, htext level, rfl, by decide⟩,
      fun level steps rest hends hsteps => ?_⟩
    rw [htext] at hsteps ⊢
    simp only [List.length_cons, List.length_append, List.length_nil] at hsteps
    obtain ⟨steps, rfl⟩ : ∃ n, steps = n + 1 := ⟨steps - 1, by omega⟩
    obtain ⟨hends', hclosing⟩ := closing_line level rest (c := ']') rfl
    obtain ⟨c, cs, hstart, hc⟩ := items_start (h item (by simp)) (level + 1) items
      ((newLine level).toList ++ ']' :: rest)
    have hitems : readItems steps [] ((writeIndentedItems (level + 1) (item :: items)).toList ++
        ((newLine level).toList ++ ']' :: rest)) = some (.list ([].reverse ++ item :: items), rest) :=
      readItems_written h (by simp) (by omega) hends' hclosing
    simp only [List.cons_append, List.append_assoc, List.nil_append]
    rw [readValue_list hstart hc, hitems]
    rfl

/-- A record is read back when its members are. -/
lemma rereads_record {members : List (String × Data)} (h : ∀ member ∈ members, Rereads member.2) :
    Rereads (.record members) := by
  cases members with
  | nil =>
    have htext : ∀ level, (writeIndented level (.record [])).toList = ['\x7b', '\x7d'] := by
      simp [writeIndented]
    refine ⟨fun level => ⟨'\x7b', ['\x7d'], htext level, rfl, by decide⟩,
      fun level steps rest _ hsteps => ?_⟩
    rw [htext] at hsteps ⊢
    obtain ⟨steps, rfl⟩ : ∃ n, steps = n + 1 := ⟨steps - 1, by simp at hsteps; omega⟩
    rfl
  | cons member members =>
    have htext : ∀ level, (writeIndented level (.record (member :: members))).toList =
        '\x7b' :: ((writeIndentedMembers (level + 1) (member :: members)).toList ++
          ((newLine level).toList ++ ['\x7d'])) := by
      simp [writeIndented]
    refine ⟨fun level => ⟨'\x7b', _, htext level, rfl, by decide⟩,
      fun level steps rest hends hsteps => ?_⟩
    rw [htext] at hsteps ⊢
    simp only [List.length_cons, List.length_append, List.length_nil] at hsteps
    obtain ⟨steps, rfl⟩ : ∃ n, steps = n + 1 := ⟨steps - 1, by omega⟩
    obtain ⟨hends', hclosing⟩ := closing_line level rest (c := '\x7d') rfl
    obtain ⟨cs, hstart⟩ := members_start (level + 1) member members
      ((newLine level).toList ++ '\x7d' :: rest)
    have hmembers : readMembers steps []
        ((writeIndentedMembers (level + 1) (member :: members)).toList ++
          ((newLine level).toList ++ '\x7d' :: rest)) =
            some (objectOf (((member :: members).map keyed).reverse ++ []), rest) :=
      readMembers_written h (by simp) (by omega) hends' hclosing
    simp only [List.cons_append, List.append_assoc, List.nil_append]
    rw [readValue_record hstart (by decide), hmembers, List.append_nil, objectOf_keyed]

/-- The values that are written as themselves: null, truth values, natural numbers, texts, and lists
and records of such values. -/
inductive Writable : Data → Prop where
  | null : Writable .null
  | bool (value : Bool) : Writable (.bool value)
  | nat (n : Nat) : Writable (.nat n)
  | text (value : String) : Writable (.text value)
  | list {items : List Data} (h : ∀ item ∈ items, Writable item) : Writable (.list items)
  | record {members : List (String × Data)} (h : ∀ member ∈ members, Writable member.2) :
      Writable (.record members)

lemma Writable.rereads {value : Data} (h : Writable value) : Rereads value := by
  induction h with
  | null => exact rereads_null
  | bool value => exact rereads_bool value
  | nat n => exact rereads_nat n
  | text value => exact rereads_text value
  | list _ ih => exact rereads_list ih
  | record _ ih => exact rereads_record ih

/-- **Reading what was written.** A value that is written as itself is read back from its text,
whatever the characters of its texts and keys are. -/
theorem Writable.read?_pretty {value : Data} (h : Writable value) :
    read? (pretty value) = some value := by
  have hread := h.rereads.reads 0 (2 * (pretty value).toList.length + 2) [] (by simp [EndsNumber])
    (by rw [pretty]; omega)
  rw [List.append_nil, ← pretty] at hread
  simp only [read?, hread]
  rfl

end SelectBinding.Json
