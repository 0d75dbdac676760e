/-!
Binary floating-point numbers with 53 significant bits.

A finite number is a sign and a whole number of units `2 ^ exponent`. `ofDecimal` rounds a decimal
`digits * 10 ^ scale` to the nearest such number, a tie going to the even neighbour.
-/

namespace SelectBinding.Decimal

/-- A binary64 number. Finite numbers are kept with `mantissa < 2 ^ 53` and the least exponent
that this allows, but never one below `-1074`. -/
inductive Binary64 where
  | finite (negative : Bool) (mantissa : Nat) (exponent : Int)
  | infinite (negative : Bool)
  | nan
deriving Repr, DecidableEq

namespace Binary64

/-- Numeric equality: the two zeros are equal, and nothing equals a number that is not one. -/
def same : Binary64 → Binary64 → Bool
  | finite n m e, finite n' m' e' => (m == 0 && m' == 0) || (n == n' && m == m' && e == e')
  | infinite n, infinite n' => n == n'
  | _, _ => false

instance : BEq Binary64 := ⟨same⟩

/-- The quotient of two natural numbers rounded to the nearest one, a tie to the even one. -/
def roundedQuotient (num den : Nat) : Nat :=
  let q := num / den
  let twice := 2 * (num % den)
  if twice < den then q
  else if den < twice then q + 1
  else if q % 2 = 0 then q else q + 1

/-- The number of binary digits of `n`; zero for zero. -/
def bitLength (n : Nat) : Nat :=
  if n = 0 then 0 else n.log2 + 1

/-- Rounds the positive fraction `num / den` on the grid of binary64 numbers. -/
def ofFraction (negative : Bool) (num den : Nat) : Binary64 :=
  let guess : Int := (bitLength num : Int) - (bitLength den : Int) - 53
  -- the exponent at which the quotient has 53 bits is the guess or the next one
  let scaled (e : Int) : Nat × Nat :=
    if e < 0 then (num * Nat.pow 2 (-e).toNat, den) else (num, den * Nat.pow 2 e.toNat)
  let tooWide : Bool := let (n, d) := scaled guess; Nat.pow 2 53 * d ≤ n
  let exponent : Int := max (-1074) (if tooWide then guess + 1 else guess)
  let (n, d) := scaled exponent
  let m := roundedQuotient n d
  let (m, e) := if m = Nat.pow 2 53 then (Nat.pow 2 52, exponent + 1) else (m, exponent)
  if 971 < e then infinite negative else finite negative m e

/-- The number of decimal digits of `n`; one for zero. -/
def digitCount (n : Nat) : Nat :=
  (Nat.toDigits 10 n).length

/-- The binary64 number nearest to `digits * 10 ^ scale`. -/
def ofDecimal (negative : Bool) (digits : Nat) (scale : Int) : Binary64 :=
  let magnitude : Int := scale + digitCount digits
  if digits = 0 ∨ magnitude < -330 then finite negative 0 (-1074)
  else if 320 < magnitude then infinite negative
  else if scale < 0 then ofFraction negative digits (Nat.pow 10 (-scale).toNat)
  else ofFraction negative (digits * Nat.pow 10 scale.toNat) 1

end Binary64

end SelectBinding.Decimal
