import SelectBinding.Proofs.Place.Texts

/-!
Lines and columns of a text.

The place behind some characters has one line more than line ends are among them, and one column more
than there are characters after the last of these. The table of line starts has one entry more than
there are line ends, so it leads back from every such place to the number of the characters, and
from no place on a line that the text does not have.
-/

namespace SelectBinding.Sql

namespace Location

/-- The place behind a run of characters: its lines and its columns counted from 1. -/
def behind (cs : List Char) : Location :=
  ⟨cs.count '\n' + 1, (cs.rtakeWhile (· ≠ '\n')).length + 1⟩

/-- Going through characters one by one leads to the place behind them. -/
lemma start_after (cs : List Char) : start.after cs = behind cs := by
  induction cs using List.reverseRecOn with
  | nil => rfl
  | append_singleton cs c ih =>
    have hlast : start.after (cs ++ [c]) = (start.after cs).advance c := by
      simp [after]
    rw [hlast, ih, advance, behind, behind, List.count_append, List.rtakeWhile_concat]
    by_cases hc : c = '\n'
    · simp [hc]
    · simp [hc]

end Location

namespace StatementText

lemma length_lineStartsFrom (offset : Nat) (cs : List Char) :
    (lineStartsFrom offset cs).length = cs.count '\n' := by
  induction cs generalizing offset with
  | nil => rfl
  | cons c cs ih =>
    unfold lineStartsFrom
    split
    · next hc => rw [List.length_cons, ih, hc, List.count_cons_self]
    · next hc => rw [ih, List.count_cons_of_ne hc]

/-- Only places on a line of the text have an offset. -/
lemma offset?_eq_none_iff {text : StatementText} {place : Location} :
    text.offset? place = none ↔
      place.line = 0 ∨ place.column = 0 ∨ text.lineStarts.length < place.line := by
  obtain ⟨line, column⟩ := place
  cases line with
  | zero => simp [offset?, offsetIn?]
  | succ line =>
    cases column with
    | zero => simp [offset?, offsetIn?]
    | succ column =>
      simp only [offset?, offsetIn?, Option.map_eq_none_iff, List.getElem?_eq_none_iff]
      omega

/-- **Places.** In every text the offset of the place behind its first `i` characters is `i`, for the
end of the text as well, and the places that have none are those on line 0, in column 0 and beyond
the last line. -/
theorem offset?_behind (dialect : Dialect) (sql : String) :
    (∀ i ≤ sql.length, (of dialect sql).offset? (.behind (sql.toList.take i)) = some i) ∧
      ∀ place, (of dialect sql).offset? place = none ↔
        place.line = 0 ∨ place.column = 0 ∨ sql.toList.count '\n' + 1 < place.line := by
  refine ⟨fun i hi => ?_, fun place => ?_⟩
  · have hstart : Reached (of dialect sql).lineStarts .start 0
        (sql.toList.take i ++ sql.toList.drop i) := by
      rw [List.take_append_drop]
      exact .start sql.toList
    have hlength : (sql.toList.take i).length = i := by
      rw [List.length_take, String.length_toList, Nat.min_eq_left hi]
    rw [← Location.start_after, offset?, hstart.after.offsetIn?, hlength, Nat.zero_add]
  · rw [offset?_eq_none_iff, of, List.length_cons, length_lineStartsFrom]

/-- A text with an empty line in it and one behind it. -/
def threeEnds : String := "SELECT 'żółw'\n\nFROM t\n"

theorem offset?_behind_threeEnds : 17 ≤ threeEnds.length ∧
    (of .ansi threeEnds).offset? ⟨3, 3⟩ = some 17 ∧ (of .ansi threeEnds).offset? ⟨5, 1⟩ = none :=
  ⟨by decide, (offset?_behind .ansi threeEnds).1 17 (by decide),
    ((offset?_behind .ansi threeEnds).2 ⟨5, 1⟩).mpr (by decide)⟩

end StatementText

end SelectBinding.Sql
