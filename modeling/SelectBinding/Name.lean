/-!
Names of tables, fields and aliases.

Two names are the same when they agree up to the case of ASCII letters; every other character
counts as it stands. `fold` gives the form under which a map stores a name, `agree` compares two
names letter by letter.
-/

namespace SelectBinding.Name

/-- The form under which a name is stored: ASCII letters in lower case. -/
def fold (name : String) : String :=
  String.ofList (name.toList.map Char.toLower)

/-- Whether two texts agree letter by letter up to ASCII case. -/
def sameLetters : List Char → List Char → Bool
  | [], [] => true
  | a :: as, b :: bs => a.toLower == b.toLower && sameLetters as bs
  | _, _ => false

/-- Whether two names are the same. -/
def agree (a b : String) : Bool :=
  sameLetters a.toList b.toList

/-- The spelling under which a dictionary of words stores a word: ASCII letters in upper case. -/
def upper (name : String) : String :=
  String.ofList (name.toList.map Char.toUpper)

/-- The parts of a dotted name; a name without a dot is one part. -/
def dottedParts (name : String) : List String :=
  go [] name.toList
where
  go (part : List Char) : List Char → List String
    | [] => [String.ofList part.reverse]
    | '.' :: rest => String.ofList part.reverse :: go [] rest
    | c :: rest => go (c :: part) rest

/-- Name parts joined with dots. -/
def dotted (parts : List String) : String :=
  String.intercalate "." parts

theorem sameLetters_iff (as bs : List Char) :
    sameLetters as bs = true ↔ as.map Char.toLower = bs.map Char.toLower := by
  induction as generalizing bs with
  | nil => cases bs <;> simp [sameLetters]
  | cons a as ih => cases bs <;> simp [sameLetters, ih]

/-- Comparing two names letter by letter is comparing the forms under which they are stored. -/
theorem agree_iff {a b : String} : agree a b = true ↔ fold a = fold b := by
  rw [agree, sameLetters_iff, fold, fold, String.ofList_inj]

/-- Only the empty name is stored as the empty text. -/
theorem fold_eq_empty_iff {a : String} : fold a = "" ↔ a = "" := by
  rw [fold, ← String.ofList_nil, String.ofList_inj, List.map_eq_nil_iff, String.toList_eq_nil_iff,
    String.ofList_nil]

theorem agree_refl (a : String) : agree a a = true :=
  (sameLetters_iff _ _).2 rfl

theorem agree_symm {a b : String} (h : agree a b = true) : agree b a = true :=
  agree_iff.2 (agree_iff.1 h).symm

theorem agree_trans {a b c : String} (h : agree a b = true) (h' : agree b c = true) :
    agree a c = true :=
  agree_iff.2 ((agree_iff.1 h).trans (agree_iff.1 h'))

/-- Names that agree agree with the same names. -/
theorem agree_congr_left {a b : String} (h : agree a b = true) (c : String) :
    agree a c = agree b c :=
  Bool.eq_iff_iff.2 ⟨agree_trans (agree_symm h), agree_trans h⟩

theorem agree_congr_right {a b : String} (h : agree a b = true) (c : String) :
    agree c a = agree c b :=
  Bool.eq_iff_iff.2 ⟨fun h' => agree_trans h' h, fun h' => agree_trans h' (agree_symm h)⟩

end SelectBinding.Name
