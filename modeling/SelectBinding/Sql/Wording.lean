import SelectBinding.Sql.Failure
import SelectBinding.Text.CharClass

/-!
The wording of a failure to read a statement, and what a wording says.

A wording ends with the place it is about. What was wanted and what was found are read back from
the wording: the first stretch of it counts that goes to its end on a single line and says both. So
a token that goes over the end of a line hides what it stands in, and may say something itself.
-/

namespace SelectBinding.Sql

/-- How a failure is worded. -/
def Failure.wording : Failure → String
  | .unexpected wanted found place => "Expected: " ++ wanted ++ ", found: " ++ found ++ place.text
  | .message text place => text ++ place.text
  | .tooDeep => "recursion limit exceeded"

namespace Wording

/-- A place by its digits. -/
structure Spot where
  line : String
  column : String
deriving Repr, DecidableEq

/-- What was wanted and what was found, perhaps with the place. -/
structure Complaint where
  wanted : String
  found : String
  spot : Option Spot
deriving Repr, DecidableEq

/-- What follows `mark`, if it stands at the front. -/
def past? (mark : String) (cs : List Char) : Option (List Char) :=
  if mark.toList.isPrefixOf cs then some (cs.drop mark.length) else none

/-- What follows `label`, perhaps a colon, and a blank. -/
def pastLabel? (label : String) (cs : List Char) : Option (List Char) := do
  let rest ← past? label cs
  past? " " ((past? ":" rest).getD rest)

/-- The digits at the front, if there are any, and what follows them. -/
def digits? (cs : List Char) : Option (String × List Char) :=
  let run := cs.takeWhile Text.isDecimalDigit
  if run.isEmpty then none
  else some (String.ofList run, cs.dropWhile Text.isDecimalDigit)

/-- The place at the front and what follows it. -/
def spot? (cs : List Char) : Option (Spot × List Char) := do
  let (line, rest) ← digits? (← past? "at Line: " cs)
  let (column, rest) ← digits? (← pastLabel? ", Column" rest)
  return (⟨line, column⟩, rest)

/-- The place that is all that is left, or no place where nothing is left. -/
def lastSpot? (cs : List Char) : Option (Option Spot) :=
  match (past? " " cs).bind spot? with
  | some (spot, []) => some (some spot)
  | _ => if cs.isEmpty then some none else none

/-- The shortest token on one line that is followed by nothing or by a last place. -/
def found? : List Char → Option (List Char × Option Spot)
  | [] => none
  | c :: rest =>
    if c = '\n' then none
    else
      match lastSpot? rest with
      | some spot => some ([c], spot)
      | none => (found? rest).map fun (token, spot) => (c :: token, spot)

/-- The shortest text on one line after which it is said what was found. -/
def wanted? : List Char → Option (List Char × List Char × Option Spot)
  | [] => none
  | c :: rest =>
    if c = '\n' then none
    else
      match (pastLabel? ", found" rest).bind found? with
      | some token => some ([c], token)
      | none => (wanted? rest).map fun (wanted, token) => (c :: wanted, token)

/-- What the characters complain about, from the first place on where they do. -/
def complaintIn? : List Char → Option Complaint
  | [] => none
  | c :: rest =>
    match (pastLabel? "Expected" (c :: rest)).bind wanted? with
    | some (wanted, found, spot) => some ⟨String.ofList wanted, String.ofList found, spot⟩
    | none => complaintIn? rest

/-- What a wording complains about. -/
def complaint? (wording : String) : Option Complaint :=
  complaintIn? wording.toList

/-- The first place in the characters. -/
def firstSpotIn? : List Char → Option Spot
  | [] => none
  | c :: rest =>
    match spot? (c :: rest) with
    | some (spot, _) => some spot
    | none => firstSpotIn? rest

/-- The first place that a wording names. -/
def firstSpot? (wording : String) : Option Spot :=
  firstSpotIn? wording.toList

/-- The characters before the first place. -/
def beforeSpot : List Char → List Char
  | [] => []
  | c :: rest => if (past? " at Line:" (c :: rest)).isSome then [] else c :: beforeSpot rest

/-- A wording without the first place and what follows it. -/
def withoutPlace (wording : String) : String :=
  String.ofList (beforeSpot wording.toList)

end Wording

end SelectBinding.Sql
