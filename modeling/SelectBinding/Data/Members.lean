import SelectBinding.Data.Value
import SelectBinding.Decimal.Numeral

/-!
Taking values of a data file apart.

A value with named members is given as a record, where members may come in any order and unknown
ones are passed over, or as a list of the members in their order. A member that is known may not be
given twice. A moment in time passes for a record without a member that anyone asks for.

A choice among names is given by one of them, or by a record of that name and an empty value, which
the two formats of data files write differently.
-/

namespace SelectBinding

/-- The two formats of data files. -/
inductive FileFormat where
  | json
  | toml
deriving Repr, DecidableEq

namespace Data

/-- The one value of a member; a member given twice is an error, one left out is no value. -/
def memberOnce? (key : String) (members : List (String × Data)) : Option (Option Data) :=
  match members.filter fun member => member.1 == key with
  | [] => some none
  | [(_, value)] => some (some value)
  | _ => none

/-- The values of the members with the given keys, in the order of the keys. A list has to give at
least the first `least` of them; in one of the formats it may go on after the last of them. -/
def members? (format : FileFormat) (keys : List String) (least : Nat) :
    Data → Option (List (Option Data))
  | .record members => keys.mapM fun key => memberOnce? key members
  | .moment => some (keys.map fun _ => none)
  | .list items =>
    if least ≤ items.length ∧ (items.length ≤ keys.length ∨ format = .toml) then
      some ((items.map some ++ List.replicate (keys.length - items.length) none).take keys.length)
    else none
  | _ => none

/-- A text. -/
def text? : Data → Option String
  | .text value => some value
  | _ => none

/-- A truth value. -/
def bool? : Data → Option Bool
  | .bool value => some value
  | _ => none

/-- A natural number below a bound. -/
def natBelow? (bound : Nat) : Data → Option Nat
  | .number spelling => (Decimal.natural? spelling).filter fun n => n < bound
  | _ => none

/-- The items of a list. -/
def items? : Data → Option (List Data)
  | .list items => some items
  | _ => none

/-- The list of what each item of a value stands for. -/
def listOf? {α : Type} (item? : Data → Option α) (value : Data) : Option (List α) :=
  value.items?.bind fun items => items.mapM item?

/-- A value that may be null. -/
def orNull? {α : Type} (value? : Data → Option α) : Data → Option (Option α)
  | .null => some none
  | value => (value? value).map some

/-- A member that has to be given. -/
def required? {α : Type} (value? : Data → Option α) (member : Option Data) : Option α :=
  member.bind value?

/-- A member that has a value of its own when it is left out. -/
def withDefault? {α : Type} (default : α) (value? : Data → Option α) (member : Option Data) :
    Option α :=
  match member with
  | none => some default
  | some value => value? value

/-- A member that may be left out or null. -/
def optional? {α : Type} (value? : Data → Option α) (member : Option Data) : Option (Option α) :=
  withDefault? none (orNull? value?) member

/-- Whether a value is empty as it follows the name of a choice. -/
def followsChoice (format : FileFormat) (value : Data) : Bool :=
  match format, value with
  | .json, .null => true
  | .toml, .record [] => true
  | .toml, .list [] => true
  | _, _ => false

/-- The name of a choice. -/
def choice? (format : FileFormat) : Data → Option String
  | .text name => some name
  | .record [(name, value)] => if followsChoice format value then some name else none
  | _ => none

end Data

end SelectBinding
