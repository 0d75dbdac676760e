import SelectBinding.Decimal.Binary64

/-!
The shortest decimal text that reads back as a given binary64 number.

A decimal reads back when it lies in the interval of reals that round to the number, ends included
when the mantissa is even. For one digit, two digits and so on, the two neighbours of the number on
that decimal grid are tried; the first grid with a hit wins, and of two hits the nearer one. Of two
hits that are equally near the larger one wins.
-/

namespace SelectBinding.Decimal

/-- A positive decimal `digits * 10 ^ scale`. -/
structure DecimalForm where
  digits : Nat
  scale : Int
deriving Repr, DecidableEq

/-- A positive finite number with the ends of its rounding interval, all as multiples of
`1 / den`. -/
structure RoundingInterval where
  low : Nat
  value : Nat
  high : Nat
  den : Nat
  inclusive : Bool

namespace RoundingInterval

/-- The interval of reals that round to `mantissa * 2 ^ exponent`. The gap below a power of two is
half as wide as the one above it, except at the least exponent. -/
def around (mantissa : Nat) (exponent : Int) : RoundingInterval :=
  let narrowBelow : Bool := mantissa = Nat.pow 2 52 && -1074 < exponent
  let up : Nat := if exponent < 0 then 1 else Nat.pow 2 exponent.toNat
  let den : Nat := if exponent < 0 then 4 * Nat.pow 2 (-exponent).toNat else 4
  { low := (4 * mantissa - (if narrowBelow then 1 else 2)) * up
    value := 4 * mantissa * up
    high := (4 * mantissa + 2) * up
    den := den
    inclusive := mantissa % 2 = 0 }

/-- Whether the decimal `digits * 10 ^ scale` lies in the interval. -/
def holds (i : RoundingInterval) (digits : Nat) (scale : Int) : Bool :=
  let lhs := if scale < 0 then digits * i.den else digits * Nat.pow 10 scale.toNat * i.den
  let unit := if scale < 0 then Nat.pow 10 (-scale).toNat else 1
  if i.inclusive then i.low * unit ≤ lhs && lhs ≤ i.high * unit
  else i.low * unit < lhs && lhs < i.high * unit

/-- The largest multiple of `10 ^ scale` not above the value, as a number of such units, with twice
the remainder and the unit it is measured in. -/
def floorAt (i : RoundingInterval) (scale : Int) : Nat × Nat × Nat :=
  let num := if scale < 0 then i.value * Nat.pow 10 (-scale).toNat else i.value
  let den := if scale < 0 then i.den else i.den * Nat.pow 10 scale.toNat
  (num / den, 2 * (num % den), den)

/-- The decimal on the grid of multiples of `10 ^ scale` that reads back and lies nearest; the
larger one of two that lie equally near. -/
def nearest? (i : RoundingInterval) (scale : Int) : Option DecimalForm :=
  let (below, twice, den) := i.floorAt scale
  let lower := below ≠ 0 && i.holds below scale
  let upper := i.holds (below + 1) scale
  match lower, upper with
  | true, true => some ⟨if twice < den then below else below + 1, scale⟩
  | true, false => some ⟨below, scale⟩
  | false, true => some ⟨below + 1, scale⟩
  | false, false => none

/-- The least power of ten above the value, as an exponent, searched upwards from `start`. -/
def pointAbove (i : RoundingInterval) : Nat → Int → Int
  | 0, start => start
  | fuel + 1, start =>
    if (i.floorAt start).1 = 0 then start else i.pointAbove fuel (start + 1)

/-- The first decimal that reads back when the number of digits grows from one. -/
def shortestFrom (i : RoundingInterval) (point : Int) : Nat → Nat → DecimalForm
  | 0, digits => ⟨(i.floorAt (point - digits)).1, point - digits⟩
  | fuel + 1, digits =>
    match i.nearest? (point - digits) with
    | some d => d
    | none => i.shortestFrom point fuel (digits + 1)

end RoundingInterval

/-- The shortest decimal that reads back as `mantissa * 2 ^ exponent`, the mantissa being
positive. -/
def shortest (mantissa : Nat) (exponent : Int) : DecimalForm :=
  let i := RoundingInterval.around mantissa exponent
  -- a number of b bits lies below 10 ^ (b * 0.30103 + 1) and not below a tenth of a tenth of it
  let bits : Int := (Binary64.bitLength mantissa : Int) + exponent
  let start : Int := Int.fdiv (bits * 30103) 100000 - 1
  let point := i.pointAbove 4 start
  i.shortestFrom point 17 1

/-- How numbers are written: positional from `10 ^ (-4)` up to `10 ^ 16`, with at least one digit
after the point, and with an exponent elsewhere. -/
structure RealFormat where
  leastPositional : Int
  firstExponential : Int
deriving Repr

/-- The format of real constants. -/
def realFormat : RealFormat := ⟨-4, 16⟩

/-- A positive decimal as text. `point` is the place of the decimal point counted from the first
digit. -/
def DecimalForm.text (format : RealFormat) (d : DecimalForm) : String :=
  let all := Nat.toDigits 10 d.digits
  let digits := (all.reverse.dropWhile (· == '0')).reverse
  let point : Int := all.length + d.scale
  let count : Int := digits.length
  if format.leastPositional < point ∧ point ≤ format.firstExponential then
    if point ≤ 0 then
      "0." ++ String.ofList (List.replicate (-point).toNat '0' ++ digits)
    else if count ≤ point then
      String.ofList (digits ++ List.replicate (point - count).toNat '0') ++ ".0"
    else
      String.ofList (digits.take point.toNat) ++ "." ++ String.ofList (digits.drop point.toNat)
  else
    let tail := match digits.drop 1 with
      | [] => ""
      | ds => "." ++ String.ofList ds
    String.ofList (digits.take 1) ++ tail ++ "e" ++ toString (point - 1)

/-- A binary64 number as text. -/
def Binary64.text : Binary64 → String
  | .nan => "NaN"
  | .infinite negative => if negative then "-inf" else "inf"
  | .finite negative mantissa exponent =>
    let sign := if negative then "-" else ""
    if mantissa = 0 then sign ++ "0.0"
    else sign ++ (shortest mantissa exponent).text realFormat

end SelectBinding.Decimal
