import Mathlib.Data.List.Forall2
import SelectBinding.Proofs.Letters
import SelectBinding.Reserved
import SelectBinding.Schema

/-!
Names that agree.

Names are compared in three ways: letter by letter, by the lower-case form under which maps store
them, and by the upper-case form under which dictionaries store words. All three come to the same,
which is that the names have the same letters up to the case of those of ASCII. So a table finds the
same field for names that agree, and a dictionary has both of them or neither.
-/

namespace SelectBinding

namespace Name

/-! ### Characters -/

/-- The characters are one and the same, or they are a capital of ASCII and its small letter, which
stands 32 places behind it. -/
def SameLetter (c d : Char) : Prop :=
  c = d ∨ c.isUpper = true ∧ d.toNat = c.toNat + 32 ∨ d.isUpper = true ∧ c.toNat = d.toNat + 32

lemma isUpper_iff {c : Char} : c.isUpper = true ↔ 65 ≤ c.toNat ∧ c.toNat ≤ 90 :=
  decide_eq_true_iff

lemma toNat_toLower (c : Char) :
    c.toLower.toNat = if 65 ≤ c.toNat ∧ c.toNat ≤ 90 then c.toNat + 32 else c.toNat := by
  by_cases hc : c.toNat < 128
  · exact forall_ascii (P := fun c => c.toLower.toNat =
      if 65 ≤ c.toNat ∧ c.toNat ≤ 90 then c.toNat + 32 else c.toNat) (by decide) hc
  · rw [toLower_of_not_ascii hc, if_neg (by omega)]

lemma toNat_toUpper (c : Char) :
    c.toUpper.toNat = if 97 ≤ c.toNat ∧ c.toNat ≤ 122 then c.toNat - 32 else c.toNat := by
  by_cases hc : c.toNat < 128
  · exact forall_ascii (P := fun c => c.toUpper.toNat =
      if 97 ≤ c.toNat ∧ c.toNat ≤ 122 then c.toNat - 32 else c.toNat) (by decide) hc
  · rw [toUpper_of_not_ascii hc, if_neg (by omega)]

lemma toLower_eq_iff {c d : Char} : c.toLower = d.toLower ↔ SameLetter c d := by
  rw [SameLetter, ← Char.toNat_inj, ← Char.toNat_inj, isUpper_iff, isUpper_iff, toNat_toLower,
    toNat_toLower]
  split_ifs <;> omega

lemma toUpper_eq_iff {c d : Char} : c.toUpper = d.toUpper ↔ SameLetter c d := by
  rw [SameLetter, ← Char.toNat_inj, ← Char.toNat_inj, isUpper_iff, isUpper_iff, toNat_toUpper,
    toNat_toUpper]
  split_ifs <;> omega

/-- A character that is not one of ASCII is the same letter as itself alone. -/
lemma SameLetter.eq_iff {c d x : Char} (h : SameLetter c d) (hx : 128 ≤ x.toNat) :
    c = x ↔ d = x := by
  rw [SameLetter, ← Char.toNat_inj, isUpper_iff, isUpper_iff] at h
  rw [← Char.toNat_inj, ← Char.toNat_inj]
  omega

/-! ### Names -/

variable {a b : String}

lemma map_eq_map_iff_forall₂ {f : Char → Char} {cs ds : List Char} :
    cs.map f = ds.map f ↔ List.Forall₂ (fun c d => f c = f d) cs ds := by
  rw [← List.forall₂_eq_eq_eq, List.forall₂_map_left_iff, List.forall₂_map_right_iff]

/-- Names agree when they have the same letters. -/
lemma agree_iff_sameLetter : agree a b = true ↔ List.Forall₂ SameLetter a.toList b.toList := by
  rw [agree, sameLetters_iff, map_eq_map_iff_forall₂]
  simp only [toLower_eq_iff]

/-- Names agree when they are the same word of a dictionary. -/
lemma agree_iff_upper : agree a b = true ↔ upper a = upper b := by
  rw [agree_iff_sameLetter, upper, upper, String.ofList_inj, map_eq_map_iff_forall₂]
  simp only [toUpper_eq_iff]

lemma getElem?_iff_of_sameLetter {cs ds : List Char} (h : List.Forall₂ SameLetter cs ds) {x : Char}
    (hx : 128 ≤ x.toNat) (i : Nat) : cs[i]? = some x ↔ ds[i]? = some x := by
  induction h generalizing i with
  | nil => rfl
  | cons h _ ih =>
    cases i with
    | zero => simpa using h.eq_iff hx
    | succ i => simpa using ih i

end Name

/-! ### Tables and dictionaries -/

variable {a b : String}

/-- Names that agree find the same field. -/
lemma Table.field?_congr (h : Name.agree a b = true) (table : Table) :
    table.field? a = table.field? b := by
  simp only [Table.field?, Name.agree_congr_right h]

lemma Table.fieldIndex?_congr (h : Name.agree a b = true) (table : Table) :
    table.fieldIndex? a = table.fieldIndex? b := by
  simp only [Table.fieldIndex?, Name.agree_congr_right h]

/-- Names for which every table has the same field agree: a table with a single field tells them
apart otherwise. -/
lemma Name.agree_of_field? (h : ∀ table : Table, table.field? a = table.field? b) :
    Name.agree a b = true := by
  have hown : (Table.mk "" none [{ name := a }]).field? a = some { name := a } := by
    simp [Table.field?, Name.agree_refl]
  rw [h] at hown
  simpa [Table.field?] using hown

lemma Reserved.contains_congr (h : Name.agree a b = true) (reserved : Reserved) :
    reserved.contains a = reserved.contains b := by
  rw [contains, contains, Name.agree_iff_upper.mp h]

/-- **Agreement.** To agree is an equivalence, and it is the same to compare names letter by letter
and to compare their folded forms. Names agree when they have the same letters, which leaves no
choice outside of ASCII, and when every table has the same field for them. No dictionary has one of
two names that agree without the other. -/
theorem Name.agree_everywhere :
    Equivalence (fun a b : String => Name.agree a b = true) ∧
      ∀ a b : String,
        (Name.agree a b = true ↔ Name.fold a = Name.fold b) ∧
        (Name.agree a b = true ↔ List.Forall₂ Name.SameLetter a.toList b.toList) ∧
        (Name.agree a b = true ↔ ∀ table : Table,
          table.field? a = table.field? b ∧ table.fieldIndex? a = table.fieldIndex? b) ∧
        (Name.agree a b = true →
          (∀ c : Char, 128 ≤ c.toNat → ∀ i : Nat,
            a.toList[i]? = some c ↔ b.toList[i]? = some c) ∧
          ∀ reserved : Reserved, reserved.contains a = reserved.contains b) := by
  refine ⟨⟨Name.agree_refl, Name.agree_symm, Name.agree_trans⟩, fun a b => ?_⟩
  refine ⟨Name.agree_iff, Name.agree_iff_sameLetter, ⟨fun h table => ?_, fun h => ?_⟩,
    fun h => ⟨fun c hc i => ?_, Reserved.contains_congr h⟩⟩
  · exact ⟨table.field?_congr h, table.fieldIndex?_congr h⟩
  · exact Name.agree_of_field? fun table => (h table).1
  · exact Name.getElem?_iff_of_sameLetter (Name.agree_iff_sameLetter.mp h) hc i

/-- An accented letter is itself alone, whatever becomes of the letters around it. -/
theorem Name.agree_everywhere_accented :
    Name.agree "Café" "cAFé" = true ∧ 128 ≤ 'é'.toNat ∧
      (∀ i : Nat, "Café".toList[i]? = some 'é' ↔ "cAFé".toList[i]? = some 'é') ∧
      (∀ reserved : Reserved, reserved.contains "Café" = reserved.contains "cAFé") ∧
      ¬ ∀ table : Table, table.field? "Café" = table.field? "CAFÉ" ∧
        table.fieldIndex? "Café" = table.fieldIndex? "CAFÉ" := by
  have hagree : Name.agree "Café" "cAFé" = true := by decide
  have hnot : Name.agree "Café" "CAFÉ" = false := by decide
  have haccent : 128 ≤ 'é'.toNat := by decide
  obtain ⟨-, hnames⟩ := Name.agree_everywhere
  obtain ⟨-, -, -, hsame⟩ := hnames "Café" "cAFé"
  obtain ⟨-, -, htables, -⟩ := hnames "Café" "CAFÉ"
  refine ⟨hagree, haccent, (hsame hagree).1 'é' haccent, (hsame hagree).2, fun h => ?_⟩
  simp [htables.mpr h] at hnot

end SelectBinding
