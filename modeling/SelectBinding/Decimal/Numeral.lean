import SelectBinding.Decimal.Binary64

/-!
Numbers as they are spelled: whole numbers within a range, and decimal fractions with an exponent.
-/

namespace SelectBinding.Decimal

/-- The value of a run of ASCII digits. -/
def digitsValue (digits : List Char) : Nat :=
  digits.foldl (fun n c => 10 * n + (c.toNat - '0'.toNat)) 0

/-- A non-empty run of ASCII digits with nothing around it. -/
def natural? (text : String) : Option Nat :=
  let cs := text.toList
  if cs.isEmpty || !cs.all Char.isDigit then none else some (digitsValue cs)

/-- A natural number is spelled with digits. -/
theorem all_toDigits (n : Nat) : (Nat.toDigits 10 n).all Char.isDigit = true :=
  List.all_eq_true.mpr fun _ hc => Nat.isDigit_of_mem_toDigits (by decide) (by decide) hc

/-- The digits that a natural number is spelled with stand for it. -/
theorem natural?_toString (n : Nat) : natural? (toString n) = some n := by
  have hvalue : digitsValue (Nat.toDigits 10 n) = n := by
    rw [digitsValue, ← Nat.ofDigitChars_eq_foldl, Nat.ofDigitChars_ten_toDigits]
  simp [natural?, all_toDigits n, hvalue]

/-- A whole number with an optional sign, from `low` to `high`. -/
def integerWithin? (low high : Int) (text : String) : Option Int :=
  let value : Option Int :=
    match text.toList with
    | '-' :: rest => (natural? (String.ofList rest)).map fun n => -(n : Int)
    | '+' :: rest => (natural? (String.ofList rest)).map fun n => (n : Int)
    | _ => (natural? text).map fun n => (n : Int)
  value.filter fun v => low ≤ v && v ≤ high

/-- The least number of a signed word of 64 bits. -/
def leastInt64 : Int := -9223372036854775808

/-- The greatest number of a signed word of 64 bits. -/
def greatestInt64 : Int := 9223372036854775807

/-- A whole number that fits a signed word of 64 bits. -/
def int64? (text : String) : Option Int :=
  integerWithin? leastInt64 greatestInt64 text

/-- A whole number without a minus sign that fits an unsigned word of 64 bits. -/
def word64? (text : String) : Option Nat :=
  let cs := match text.toList with
    | '+' :: rest => rest
    | cs => cs
  (natural? (String.ofList cs)).filter fun n => n < UInt64.size

/-- The exponent part of a numeral, empty or `e`, a sign and digits. -/
def exponentPart? : List Char → Option Int
  | [] => some 0
  | c :: rest =>
    if c = 'e' ∨ c = 'E' then
      let (negative, digits) : Bool × List Char :=
        match rest with
        | '-' :: ds => (true, ds)
        | '+' :: ds => (false, ds)
        | ds => (false, ds)
      if digits.isEmpty || !digits.all Char.isDigit then none
      else
        let n : Int := digitsValue digits
        some (if negative then -n else n)
    else none

/-- An unsigned decimal numeral: digits, at most one point with a digit on either side of it, and
an optional exponent. -/
def unsignedReal? (negative : Bool) (cs : List Char) : Option Binary64 :=
  let whole := cs.takeWhile Char.isDigit
  let afterWhole := cs.dropWhile Char.isDigit
  let (fraction, afterFraction) : List Char × List Char :=
    match afterWhole with
    | '.' :: rest => (rest.takeWhile Char.isDigit, rest.dropWhile Char.isDigit)
    | rest => ([], rest)
  if whole.isEmpty && fraction.isEmpty then none
  else
    (exponentPart? afterFraction).map fun e =>
      Binary64.ofDecimal negative (digitsValue (whole ++ fraction)) (e - fraction.length)

/-- A binary64 number from its text: a signed decimal numeral, or the names of the values that are
no finite number, in any case. -/
def real? (text : String) : Option Binary64 :=
  let signed (negative : Bool) (cs : List Char) : Option Binary64 :=
    let name := String.ofList (cs.map Char.toLower)
    if name = "inf" ∨ name = "infinity" then some (.infinite negative)
    else if name = "nan" then some .nan
    else unsignedReal? negative cs
  match text.toList with
  | '-' :: rest => signed true rest
  | '+' :: rest => signed false rest
  | cs => signed false cs

end SelectBinding.Decimal
