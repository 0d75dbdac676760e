import Mathlib.Data.List.Basic
import SelectBinding.Name

/-!
Names without the case of their ASCII letters.
-/

namespace SelectBinding.Name

/-! ### Letters -/

/-- What holds of the ASCII characters one by one holds of every ASCII character. -/
lemma forall_ascii {P : Char → Prop} (h : ∀ n : Fin 128, P (Char.ofNat n)) {c : Char}
    (hc : c.toNat < 128) : P c := by
  have hn := h ⟨c.toNat, hc⟩
  rwa [Char.ofNat_toNat] at hn

/-- Only ASCII letters have a case. -/
lemma toLower_of_not_ascii {c : Char} (hc : ¬ c.toNat < 128) : c.toLower = c := by
  have hnot : ¬ (c.val ≥ 'A'.val ∧ c.val ≤ 'Z'.val) := by
    rintro ⟨-, h⟩
    have h' : c.toNat ≤ 90 := h
    omega
  exact dif_neg hnot

lemma toUpper_of_not_ascii {c : Char} (hc : ¬ c.toNat < 128) : c.toUpper = c := by
  have hnot : ¬ ('a'.val ≤ c.val ∧ c.val ≤ 'z'.val) := by
    rintro ⟨-, h⟩
    have h' : c.toNat ≤ 122 := h
    omega
  exact dif_neg hnot

/-- Digits are no letters. -/
lemma toLower_of_isDigit {c : Char} (h : c.isDigit = true) : c.toLower = c := by
  have hle : c.toNat ≤ 57 := of_decide_eq_true (Bool.and_eq_true_iff.mp h).2
  have hnot : ¬ (c.val ≥ 'A'.val ∧ c.val ≤ 'Z'.val) := by
    rintro ⟨h', -⟩
    have hge : 65 ≤ c.toNat := h'
    omega
  exact dif_neg hnot

lemma toLower_toLower (c : Char) : c.toLower.toLower = c.toLower := by
  by_cases hc : c.toNat < 128
  · exact forall_ascii (P := fun c => c.toLower.toLower = c.toLower) (by decide) hc
  · rw [toLower_of_not_ascii hc, toLower_of_not_ascii hc]

lemma toLower_eq_asterisk {c : Char} (h : c.toLower = '*') : c = '*' := by
  by_cases hc : c.toNat < 128
  · exact forall_ascii (P := fun c => c.toLower = '*' → c = '*') (by decide) hc h
  · rwa [toLower_of_not_ascii hc] at h

/-! ### Folded names -/

lemma toList_fold (name : String) : (fold name).toList = name.toList.map Char.toLower :=
  String.toList_ofList

@[simp] lemma fold_fold (name : String) : fold (fold name) = fold name := by
  rw [fold, toList_fold, List.map_map, fold]
  congr 2
  funext c
  exact toLower_toLower c

/-- A name agrees with its folded form. -/
lemma agree_fold (name : String) : agree (fold name) name = true :=
  agree_iff.mpr (fold_fold name)

@[simp] lemma agree_fold_left (a b : String) : agree (fold a) b = agree a b :=
  agree_congr_left (agree_fold a) b

@[simp] lemma agree_fold_right (a b : String) : agree a (fold b) = agree a b :=
  agree_congr_right (agree_fold b) a

@[simp] lemma any_agree_map_fold (aliasName : Option String) (name : String) :
    ((aliasName.map fold).any fun a => agree a name) = aliasName.any fun a => agree a name := by
  cases aliasName with
  | none => rfl
  | some a => exact agree_fold_left a name

/-- An asterisk has no case. -/
@[simp] lemma fold_eq_asterisk_iff {name : String} : fold name = "*" ↔ name = "*" := by
  constructor
  · intro h
    have hchars : name.toList.map Char.toLower = ['*'] := by rw [← toList_fold, h]; rfl
    obtain ⟨c, hname, hc⟩ := List.map_eq_singleton_iff.mp hchars
    rw [← String.ofList_toList (s := name), hname, toLower_eq_asterisk hc]
  · rintro rfl
    rfl

/-- The last part of a name, if there is one, is folded with the name. -/
lemma last_map_fold (parts : List String) :
    (parts.map fold).getLast?.getD "" = fold (parts.getLast?.getD "") := by
  rw [List.getLast?_map]
  cases parts.getLast? <;> rfl

lemma fold_append (a b : String) : fold (a ++ b) = fold a ++ fold b := by
  rw [← String.toList_inj, String.toList_append, toList_fold, toList_fold, toList_fold,
    String.toList_append, List.map_append]

/-- The parts of a dotted name are folded one by one. -/
lemma dotted_map_fold (parts : List String) : dotted (parts.map fold) = fold (dotted parts) := by
  induction parts with
  | nil => rfl
  | cons part rest ih =>
    cases rest with
    | nil =>
      unfold dotted
      rw [List.map_singleton, String.intercalate_singleton, String.intercalate_singleton]
    | cons next rest =>
      have hdot : fold "." = "." := rfl
      unfold dotted at ih ⊢
      rw [List.map_cons, List.map_cons, String.intercalate_cons_cons, ← List.map_cons, ih,
        String.intercalate_cons_cons, fold_append, fold_append, hdot]

end SelectBinding.Name
