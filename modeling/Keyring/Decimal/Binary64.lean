/-!
# Binary floating-point numbers

The numbers of the 64-bit binary format as exact values: a natural number below `2 ^ 53` times a
power of two. A decimal is rounded to the nearest of them, a tie to the even one.
-/

namespace Keyring

/-- A number of the format, or one of its values that are no numbers. A finite number is
`mantissa * 2 ^ exponent`, where the mantissa has 53 bits unless the exponent is `-1074`. -/
inductive Binary64 where
  | nan
  | infinity (negative : Bool)
  | finite (negative : Bool) (mantissa : Nat) (exponent : Int)
  deriving DecidableEq

namespace Binary64

/-- The quotient of two natural numbers rounded to the nearest, a tie to even. -/
def divideNearest (n d : Nat) : Nat :=
  let q := n / d
  let twice := n % d * 2
  if twice < d then q else if twice > d then q + 1 else q + q % 2

/-- The nearest number to a positive fraction. -/
def ofFraction (negative : Bool) (n d : Nat) : Binary64 :=
  let magnitude : Int := (Nat.log2 n : Int) - Nat.log2 d
  let guess : Int := magnitude - 52
  -- the quotient by `2 ^ guess` lies between `2 ^ 51` and `2 ^ 53`
  let scaled (e : Int) : Nat × Nat := (n * Nat.pow 2 (-e).toNat, d * Nat.pow 2 e.toNat)
  let low := scaled guess
  let exponent := max (if low.1 / low.2 < Nat.pow 2 52 then guess - 1 else guess) (-1074)
  let fraction := scaled exponent
  let mantissa := divideNearest fraction.1 fraction.2
  let (mantissa, exponent) :=
    if mantissa = Nat.pow 2 53 then (Nat.pow 2 52, exponent + 1) else (mantissa, exponent)
  if exponent > 971 then .infinity negative else .finite negative mantissa exponent

/-- How many decimal digits a number has; zero has one. -/
def decimalLength (n : Nat) : Nat := (Nat.toDigits 10 n).length

/-- The nearest number to `digits * 10 ^ exponent`. Exponents far outside the range of the format
are settled without computing the power. -/
def ofDecimal (negative : Bool) (digits : Nat) (exponent : Int) : Binary64 :=
  if digits = 0 then .finite negative 0 (-1074)
  else
    let leading := exponent + decimalLength digits
    if leading > 310 then .infinity negative
    else if leading < -330 then .finite negative 0 (-1074)
    else ofFraction negative (digits * Nat.pow 10 exponent.toNat) (Nat.pow 10 (-exponent).toNat)

/-- The integer part, cut toward zero; none for what is no number. -/
def truncate? : Binary64 → Option Int
  | .finite negative mantissa exponent =>
    let magnitude := mantissa * Nat.pow 2 exponent.toNat / Nat.pow 2 (-exponent).toNat
    some (if negative then -(magnitude : Int) else magnitude)
  | _ => none

/-- Whether the number has no fraction. -/
def isIntegral : Binary64 → Bool
  | .finite _ mantissa exponent => mantissa % Nat.pow 2 (-exponent).toNat = 0
  | _ => false

/-- The integer that the number is equal to. -/
def toInt? (x : Binary64) : Option Int := if x.isIntegral then x.truncate? else none

end Binary64

end Keyring
