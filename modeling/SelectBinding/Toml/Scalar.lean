import SelectBinding.Data.Value
import SelectBinding.Decimal.Numeral

/-!
The values of a TOML text that are written as one word: truth values, numbers and moments in time.

A whole number is given by its decimal spelling. Of a number with a fraction it only matters that it
is no text and no whole number, and of a moment only that it is one.
-/

namespace SelectBinding.Toml

/-- A number with a fraction, or without a finite value. -/
def fractional : Data := .unusable

/-! ### Numbers -/

/-- A run of digits that may have single underscores between them. -/
def isDigitRun (isDigit : Char → Bool) : List Char → Bool
  | [] => false
  | [c] => isDigit c
  | c :: '_' :: rest => isDigit c && isDigitRun isDigit rest
  | c :: rest => isDigit c && isDigitRun isDigit rest

/-- The characters without underscores. -/
def withoutUnderscores (cs : List Char) : List Char :=
  cs.filter fun c => c != '_'

/-- The value of a digit of any base up to sixteen. -/
def digitValue (c : Char) : Nat :=
  if c.isDigit then c.toNat - '0'.toNat else c.toLower.toNat - 'a'.toNat + 10

/-- Whether a character is a digit of a base. -/
def isDigitOf (base : Nat) (c : Char) : Bool :=
  (c.isDigit || ('a' ≤ c.toLower && c.toLower ≤ 'f')) && digitValue c < base

/-- The value of a run of digits. -/
def runValue (base : Nat) (cs : List Char) : Nat :=
  (withoutUnderscores cs).foldl (fun n c => base * n + digitValue c) 0

/-- A whole number that fits a signed word of 64 bits. -/
def word? (n : Int) : Option Data :=
  if Decimal.leastInt64 ≤ n ∧ n ≤ Decimal.greatestInt64 then some (.number (toString n)) else none

/-- Whether a run of decimal digits has no zero in front of others. -/
def isWhole : List Char → Bool
  | ['0'] => true
  | '0' :: _ => false
  | cs => isDigitRun Char.isDigit cs

/-- A whole number in a base other than ten. -/
def based? (base : Nat) (cs : List Char) : Option Data :=
  if isDigitRun (isDigitOf base) cs then word? (runValue base cs) else none

/-- Whether a character starts an exponent. -/
def startsExponent (c : Char) : Bool :=
  c == 'e' || c == 'E'

/-- Whether this is an exponent after its letter. -/
def isExponent : List Char → Bool
  | '+' :: rest => isDigitRun Char.isDigit rest
  | '-' :: rest => isDigitRun Char.isDigit rest
  | rest => isDigitRun Char.isDigit rest

/-- Whether this is what follows the whole part of a number with a fraction. -/
def isFraction (cs : List Char) : Bool :=
  match cs with
  | '.' :: rest =>
    let digits := rest.takeWhile fun c => !startsExponent c
    isDigitRun Char.isDigit digits &&
      match rest.dropWhile fun c => !startsExponent c with
      | [] => true
      | _ :: exponent => isExponent exponent
  | c :: rest => startsExponent c && isExponent rest
  | [] => false

/-- A number with a fraction or an exponent. One that lies above all finite numbers is refused. -/
def fraction? (negative : Bool) (cs : List Char) : Option Data :=
  match Decimal.unsignedReal? negative (withoutUnderscores cs) with
  | some value => if value == .infinite false then none else some fractional
  | none => none

/-- A decimal number after its sign. -/
def decimal? (negative : Bool) (cs : List Char) : Option Data :=
  if isWhole cs then
    let n : Int := runValue 10 cs
    word? (if negative then -n else n)
  else if cs = ['i', 'n', 'f'] ∨ cs = ['n', 'a', 'n'] then some fractional
  else
    let whole := cs.takeWhile fun c => c.isDigit || c == '_'
    let rest := cs.dropWhile fun c => c.isDigit || c == '_'
    if isWhole whole && isFraction rest then fraction? negative cs else none

/-- A number. -/
def number? : List Char → Option Data
  | '0' :: 'x' :: rest => based? 16 rest
  | '0' :: 'o' :: rest => based? 8 rest
  | '0' :: 'b' :: rest => based? 2 rest
  | '+' :: rest => decimal? false rest
  | '-' :: rest => decimal? true rest
  | cs => decimal? false cs

/-! ### Moments in time -/

/-- The number that two digits make, if it lies between two bounds. -/
def twoDigits? (low high : Nat) (a b : Char) : Option Nat :=
  if a.isDigit && b.isDigit then
    let n := 10 * digitValue a + digitValue b
    if low ≤ n ∧ n ≤ high then some n else none
  else none

/-- The number of days of a month. -/
def daysOf (year month : Nat) : Nat :=
  if month = 2 then
    if year % 4 = 0 ∧ (year % 100 ≠ 0 ∨ year % 400 = 0) then 29 else 28
  else if [4, 6, 9, 11].contains month then 30
  else 31

/-- What follows a day. -/
def afterDate? : List Char → Option (List Char)
  | a :: b :: c :: d :: '-' :: e :: f :: '-' :: g :: h :: rest => do
    if !([a, b, c, d].all Char.isDigit) then none
    let year := Decimal.digitsValue [a, b, c, d]
    let month ← twoDigits? 1 12 e f
    let _ ← twoDigits? 1 (daysOf year month) g h
    return rest
  | _ => none

/-- What follows the fraction of a second, which may be left out. -/
def afterFraction? : List Char → Option (List Char)
  | '.' :: c :: rest => if c.isDigit then some (rest.dropWhile Char.isDigit) else none
  | '.' :: [] => none
  | rest => some rest

/-- What follows a time of day. -/
def afterTime? : List Char → Option (List Char)
  | a :: b :: ':' :: c :: d :: ':' :: e :: f :: rest => do
    let _ ← twoDigits? 0 23 a b
    let _ ← twoDigits? 0 59 c d
    let _ ← twoDigits? 0 60 e f
    afterFraction? rest
  | _ => none

/-- Whether this is nothing or an offset from universal time. -/
def isOffset : List Char → Bool
  | [] => true
  | [c] => c == 'z' || c == 'Z'
  | [sign, a, b, ':', c, d] =>
    (sign == '+' || sign == '-') && (twoDigits? 0 23 a b).isSome && (twoDigits? 0 59 c d).isSome
  | _ => false

/-- Whether this is a day, a time of day, or both. -/
def isMoment (cs : List Char) : Bool :=
  match afterDate? cs with
  | some [] => true
  | some (c :: rest) =>
    (c == 't' || c == 'T' || c == ' ') && ((afterTime? rest).map isOffset).getD false
  | none => afterTime? cs == some []

/-! ### Words -/

/-- The value of a word. -/
def word (cs : List Char) : Option Data :=
  if cs = ['t', 'r', 'u', 'e'] then some (.bool true)
  else if cs = ['f', 'a', 'l', 's', 'e'] then some (.bool false)
  else if isMoment cs then some .moment
  else number? cs

end SelectBinding.Toml
