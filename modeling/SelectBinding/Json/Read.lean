import SelectBinding.Data.Value

/-!
Reading JSON text.

Every reader takes the characters that are left and returns a value with the characters after it,
or nothing when the text is no JSON. The readers of values count down a number of steps; a text
never needs more steps than it has characters, twice over.
-/

namespace SelectBinding.Json

/-- A blank between the parts of a value. -/
def isBlank (c : Char) : Bool :=
  c == ' ' || c == '\n' || c == '\t' || c == '\r'

/-- The characters after any blanks. -/
def skipBlanks (cs : List Char) : List Char :=
  cs.dropWhile isBlank

/-- The value of a hexadecimal digit. -/
def hexValue? (c : Char) : Option Nat :=
  if '0' ≤ c ∧ c ≤ '9' then some (c.toNat - '0'.toNat)
  else if 'a' ≤ c ∧ c ≤ 'f' then some (c.toNat - 'a'.toNat + 10)
  else if 'A' ≤ c ∧ c ≤ 'F' then some (c.toNat - 'A'.toNat + 10)
  else none

/-- The value of four hexadecimal digits. -/
def hexValue4? (a b c d : Char) : Option Nat :=
  match hexValue? a, hexValue? b, hexValue? c, hexValue? d with
  | some a, some b, some c, some d => some (((a * 16 + b) * 16 + c) * 16 + d)
  | _, _, _, _ => none

/-- The character that a letter after a backslash stands for. -/
def escaped? (c : Char) : Option Char :=
  if c = '"' ∨ c = '\\' ∨ c = '/' then some c
  else if c = 'b' then some (Char.ofNat 8)
  else if c = 'f' then some (Char.ofNat 12)
  else if c = 'n' then some '\n'
  else if c = 'r' then some '\r'
  else if c = 't' then some '\t'
  else none

/-- A string in the making: its characters in reverse, the first half of a character outside the
basic plane when it has been read, and whether some half was left alone. -/
structure Draft where
  done : List Char := []
  half : Option Nat := none
  broken : Bool := false

namespace Draft

/-- The draft with a whole character. -/
def push (draft : Draft) (c : Char) : Draft :=
  ⟨c :: draft.done, none, draft.broken || draft.half.isSome⟩

/-- The draft with a unit of sixteen bits. -/
def pushUnit (draft : Draft) (unit : Nat) : Draft :=
  if 0xD800 ≤ unit ∧ unit < 0xDC00 then
    ⟨draft.done, some unit, draft.broken || draft.half.isSome⟩
  else if 0xDC00 ≤ unit ∧ unit < 0xE000 then
    match draft.half with
    | some half =>
      ⟨Char.ofNat (0x10000 + (half - 0xD800) * 0x400 + (unit - 0xDC00)) :: draft.done, none,
        draft.broken⟩
    | none => ⟨draft.done, none, true⟩
  else draft.push (Char.ofNat unit)

/-- The string of a draft. -/
def finish (draft : Draft) : Data :=
  if draft.broken || draft.half.isSome then .unusable
  else .text (String.ofList draft.done.reverse)

end Draft

/-- The rest of a string after its opening quote. -/
def readString (draft : Draft) : List Char → Option (Data × List Char)
  | '"' :: rest => some (draft.finish, rest)
  | '\\' :: 'u' :: a :: b :: c :: d :: rest =>
    match hexValue4? a b c d with
    | some unit => readString (draft.pushUnit unit) rest
    | none => none
  | '\\' :: c :: rest =>
    match escaped? c with
    | some c => readString (draft.push c) rest
    | none => none
  | c :: rest => if c.toNat < 0x20 then none else readString (draft.push c) rest
  | [] => none

/-- The digits at the front, at least one, and the characters after them. -/
def readDigits (cs : List Char) : Option (List Char × List Char) :=
  let digits := cs.takeWhile Char.isDigit
  if digits.isEmpty then none else some (digits, cs.dropWhile Char.isDigit)

/-- The whole part of a number, which starts with a zero only when it is one. -/
def readWhole : List Char → Option (List Char × List Char)
  | '0' :: rest => some (['0'], rest)
  | cs => readDigits cs

/-- The fraction of a number, perhaps empty. -/
def readFraction : List Char → Option (List Char × List Char)
  | '.' :: rest => (readDigits rest).map fun (digits, rest) => ('.' :: digits, rest)
  | rest => some ([], rest)

/-- The exponent of a number, perhaps empty. -/
def readExponent : List Char → Option (List Char × List Char)
  | c :: rest =>
    if c = 'e' ∨ c = 'E' then
      match rest with
      | sign :: digits =>
        if sign = '+' ∨ sign = '-' then
          (readDigits digits).map fun (digits, rest) => (c :: sign :: digits, rest)
        else (readDigits rest).map fun (digits, rest) => (c :: digits, rest)
      | [] => none
    else some ([], c :: rest)
  | [] => some ([], [])

/-- A number without its sign. -/
def readUnsigned (sign : List Char) (cs : List Char) : Option (Data × List Char) :=
  match readWhole cs with
  | none => none
  | some (whole, rest) =>
    match readFraction rest with
    | none => none
    | some (fraction, rest) =>
      (readExponent rest).map fun (exponent, rest) =>
        (.number (String.ofList (sign ++ whole ++ fraction ++ exponent)), rest)

/-- A word, a number or a string. -/
def readScalar : List Char → Option (Data × List Char)
  | 'n' :: 'u' :: 'l' :: 'l' :: rest => some (.null, rest)
  | 't' :: 'r' :: 'u' :: 'e' :: rest => some (.bool true, rest)
  | 'f' :: 'a' :: 'l' :: 's' :: 'e' :: rest => some (.bool false, rest)
  | '"' :: rest => readString {} rest
  | '-' :: rest => readUnsigned ['-'] rest
  | cs => readUnsigned [] cs

/-- The key of a member and the colon after it; no key is a text with half a character in it. -/
def readKey (cs : List Char) : Option (Option String × List Char) :=
  match skipBlanks cs with
  | '"' :: rest =>
    match readString {} rest with
    | some (key, rest) =>
      match skipBlanks rest, key with
      | ':' :: rest, .text key => some (some key, rest)
      | ':' :: rest, _ => some (none, rest)
      | _, _ => none
    | none => none
  | _ => none

/-- The value of the members of an object, the last one first. Where one of them has no key, the
object is well formed, but no member ever takes it. -/
def objectOf (members : List (Option String × Data)) : Data :=
  match members.mapM fun (key, value) => key.map fun key => (key, value) with
  | some members => .record members.reverse
  | none => .unusable

mutual

/-- A value. -/
def readValue : Nat → List Char → Option (Data × List Char)
  | 0, _ => none
  | steps + 1, cs =>
    match skipBlanks cs with
    | '[' :: rest =>
      match skipBlanks rest with
      | ']' :: rest => some (.list [], rest)
      | rest => readItems steps [] rest
    | '{' :: rest =>
      match skipBlanks rest with
      | '}' :: rest => some (.record [], rest)
      | rest => readMembers steps [] rest
    | cs => readScalar cs

/-- The items of an array after those in `done`, the last one first. -/
def readItems : Nat → List Data → List Char → Option (Data × List Char)
  | 0, _, _ => none
  | steps + 1, done, cs =>
    match readValue steps cs with
    | none => none
    | some (item, rest) =>
      match skipBlanks rest with
      | ',' :: rest => readItems steps (item :: done) rest
      | ']' :: rest => some (.list (item :: done).reverse, rest)
      | _ => none

/-- The members of an object after those in `done`, the last one first. -/
def readMembers : Nat → List (Option String × Data) → List Char → Option (Data × List Char)
  | 0, _, _ => none
  | steps + 1, done, cs =>
    match readKey cs with
    | none => none
    | some (key, rest) =>
      match readValue steps rest with
      | none => none
      | some (value, rest) =>
        match skipBlanks rest with
        | ',' :: rest => readMembers steps ((key, value) :: done) rest
        | '}' :: rest => some (objectOf ((key, value) :: done), rest)
        | _ => none

end

/-- The value a text stands for, with nothing but blanks around it. -/
def read? (text : String) : Option Data :=
  let cs := text.toList
  match readValue (2 * cs.length + 2) cs with
  | some (value, rest) => if (skipBlanks rest).isEmpty then some value else none
  | none => none

end SelectBinding.Json
