import Keyring.Decimal.Binary64

/-!
# Shortest decimal text of a number

The fewest digits that read back as the same number; of several with that count the nearest. Numbers
from a ten-thousandth up to `10 ^ 16` are written positionally, all others with an exponent.
-/

namespace Keyring.Binary64

/-- The count of places by which the point is shifted so that `n / d` is a fraction below one and at
least a tenth: the first from `guess` downwards, where `fuel` bounds the search. -/
def pointPlace (n d : Nat) : Nat → Int → Int
  | 0, guess => guess
  | fuel + 1, guess =>
    -- `n / d ≥ 10 ^ (guess - 1)`
    let e := guess - 1
    if n * Nat.pow 10 (-e).toNat ≥ d * Nat.pow 10 e.toNat then guess else pointPlace n d fuel e

/-- Whether `digits * 10 ^ place` reads back as the number `mantissa * 2 ^ exponent`: it lies
between the midpoints to the neighbours, which belong to the number if its mantissa is even. -/
def readsBack (mantissa : Nat) (exponent : Int) (digits : Nat) (place : Int) : Bool :=
  -- everything times four, over the common denominator of the two powers
  let unit : Nat := Nat.pow 2 exponent.toNat * Nat.pow 10 (-place).toNat
  let value : Nat := digits * 4 * Nat.pow 10 place.toNat * Nat.pow 2 (-exponent).toNat
  let below : Nat := if mantissa = Nat.pow 2 52 ∧ exponent > -1074 then 1 else 2
  let low := (mantissa * 4 - below) * unit
  let high := (mantissa * 4 + 2) * unit
  if mantissa % 2 = 0 then low ≤ value && value ≤ high else low < value && value < high

/-- The decimal with `count` digits that reads back, the nearer one if both neighbours do. -/
def withDigits? (mantissa : Nat) (exponent point : Int) (count : Nat) : Option (Nat × Int) :=
  let place := point - count
  let n := mantissa * Nat.pow 2 exponent.toNat * Nat.pow 10 (-place).toNat
  let d := Nat.pow 2 (-exponent).toNat * Nat.pow 10 place.toNat
  let floor := n / d
  let down := readsBack mantissa exponent floor place && floor > 0
  let up := readsBack mantissa exponent (floor + 1) place
  let nearest := divideNearest n d
  if down && up then some (nearest, place)
  else if down then some (floor, place)
  else if up then some (floor + 1, place)
  else none

/-- The shortest digits of a positive number and the power of ten of the last of them. Seventeen
digits always read back. -/
def shortest (mantissa : Nat) (exponent : Int) : Nat × Int :=
  let n := mantissa * Nat.pow 2 exponent.toNat
  let d := Nat.pow 2 (-exponent).toNat
  let magnitude : Int := (Nat.log2 n : Int) - Nat.log2 d
  -- a digit is worth between three and four bits
  let point := pointPlace n d 700 (max (magnitude / 3) (magnitude / 4) + 2)
  ((List.range 17).findSome? (fun i => withDigits? mantissa exponent point (i + 1))).getD (0, 0)

/-- The digits without zeros at their end, and the power of ten of the last one. -/
def dropZeros (digits : List Char) (place : Int) : List Char × Int :=
  let kept := (digits.reverse.dropWhile (· = '0')).reverse
  (kept, place + (digits.length - kept.length : Nat))

/-- The text of an exponent: a sign and two or more digits. -/
def exponentChars (e : Int) : List Char :=
  let digits := Nat.toDigits 10 e.natAbs
  (if e < 0 then '-' else '+') :: (if digits.length < 2 then '0' :: digits else digits)

/-- Digits with the point after the first `point` of them; a number without a fraction ends in a
zero after the point. -/
def layOut (digits : List Char) (point : Int) : List Char :=
  if point ≤ -4 ∨ point > 16 then
    match digits with
    | [] => []
    | [d] => d :: 'e' :: exponentChars (point - 1)
    | d :: rest => d :: '.' :: (rest ++ 'e' :: exponentChars (point - 1))
  else if point ≤ 0 then '0' :: '.' :: (List.replicate (-point).toNat '0' ++ digits)
  else
    let whole := digits.take point.toNat
    let fraction := digits.drop point.toNat
    whole ++ List.replicate (point.toNat - whole.length) '0' ++ '.' ::
      (if fraction.isEmpty then ['0'] else fraction)

/-- The text of a number. -/
def text : Binary64 → String
  | .nan => "nan"
  | .infinity negative => if negative then "-inf" else "inf"
  | .finite negative mantissa exponent =>
    let body :=
      if mantissa = 0 then ['0', '.', '0']
      else
        let (digits, place) := shortest mantissa exponent
        let (digits, place) := dropZeros (Nat.toDigits 10 digits) place
        layOut digits (place + digits.length)
    String.ofList (if negative then '-' :: body else body)

end Keyring.Binary64
