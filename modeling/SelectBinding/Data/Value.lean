/-!
Values as data files hold them: numbers by their spelling, members in order and with repetitions.
-/

namespace SelectBinding

/-- A value of a data file. -/
inductive Data where
  | null
  | bool (value : Bool)
  /-- A number by its spelling. -/
  | number (spelling : String)
  | text (value : String)
  /-- A value that is well formed but no member ever takes: a number with a fraction, a text with
  half a character in it, or an object with such a text for a key. -/
  | unusable
  /-- A moment in time. It stands for a record in which no member is given. -/
  | moment
  | list (items : List Data)
  | record (members : List (String × Data))
deriving Repr, Inhabited

namespace Data

/-- The value of a natural number. -/
def nat (n : Nat) : Data :=
  .number (toString n)

/-- The value of an optional member, null when there is none. -/
def option {α : Type} (value : α → Data) : Option α → Data
  | none => .null
  | some a => value a

/-- A member that is left out when it has no value. -/
def optionalMember {α : Type} (key : String) (value : α → Data) : Option α → List (String × Data)
  | none => []
  | some a => [(key, value a)]

end Data

end SelectBinding
