import EvmLocator.Number.Binary64

/-!
# Shortest decimal text of a binary64 number

The text of a number has the fewest digits that read back as the number, and of those the digits
nearest to it.  The numbers that read back form an interval around `m * 2 ^ e`: half the distance
to each neighbour, ends included exactly when `m` is even.  For one digit, two, and so on up to
seventeen, the two points of the decimal grid around the number are tested against that interval
in exact arithmetic; the first grid with a hit gives the digits.

How the digits are laid out is a separate decision, `Layout`.
-/

namespace EvmLocator

/-- A decimal number `digits * 10 ^ exponent`. -/
structure Decimal where
  digits : Nat
  exponent : Int

namespace Binary64

/-- A positive finite number and the ends of the interval that reads back as it, as numerators
over one denominator. -/
structure Rounding where
  low : Nat
  mid : Nat
  high : Nat
  den : Nat
  closed : Bool

namespace Rounding

/-- The interval around `significand * 2 ^ exponent`.  Below a power of two the neighbour is only
half as far away as above. -/
def ofFinite (significand : Nat) (exponent : Int) : Rounding :=
  let below := if significand = powerOfTwo 52 ∧ leastExponent < exponent then 1 else 2
  let up := powerOfTwo (exponent - 2).toNat
  { low := (4 * significand - below) * up
    mid := 4 * significand * up
    high := (4 * significand + 2) * up
    den := powerOfTwo (2 - exponent).toNat
    closed := significand % 2 = 0 }

/-- Whether `c * 10 ^ k` lies in the interval. -/
def holds (r : Rounding) (c : Nat) (k : Int) : Bool :=
  let point := c * powerOfTen k.toNat * r.den
  let unit := powerOfTen (-k).toNat
  if r.closed then r.low * unit ≤ point && point ≤ r.high * unit
  else r.low * unit < point && point < r.high * unit

/-- The point of the grid `10 ^ k` that is nearest to the number and lies in its interval. -/
def onGrid (r : Rounding) (k : Int) : Option Nat :=
  let num := r.mid * powerOfTen (-k).toNat
  let den := r.den * powerOfTen k.toNat
  let c := num / den
  let twice := 2 * (num % den)
  let nearer := if twice < den ∨ (twice = den ∧ c % 2 = 0) then (c, c + 1) else (c + 1, c)
  if r.holds nearer.1 k then some nearer.1
  else if r.holds nearer.2 k then some nearer.2
  else none

/-- The first position at or after `p` whose power of ten exceeds the number. -/
def pointFrom (r : Rounding) : Nat → Int → Int
  | 0, p => p
  | steps + 1, p =>
    if r.mid * powerOfTen (-p).toNat < r.den * powerOfTen p.toNat then p
    else pointFrom r steps (p + 1)

/-- The position of the decimal point: the least power of ten that exceeds the number.  The guess
from the lengths of the ratio is at most three positions too low. -/
def point (r : Rounding) : Int :=
  let bits : Int := (r.mid.log2 : Int) - r.den.log2
  r.pointFrom 5 ((bits * 30103).fdiv 100000 - 1)

end Rounding

/-- The same decimal number without zeros at the end of its digits. -/
def trimZeros : Nat → Decimal → Decimal
  | 0, d => d
  | steps + 1, d =>
    if d.digits % 10 = 0 ∧ d.digits ≠ 0 then
      trimZeros steps { digits := d.digits / 10, exponent := d.exponent + 1 }
    else d

/-- The shortest decimal that reads back as `significand * 2 ^ exponent`, which is not zero. -/
def shortest (significand : Nat) (exponent : Int) : Decimal :=
  let r := Rounding.ofFinite significand exponent
  let p := r.point
  let hit := (List.range 17).findSome? fun (n : Nat) =>
    let k := p - ((n : Int) + 1)
    (r.onGrid k).map fun c => ({ digits := c, exponent := k } : Decimal)
  trimZeros 18 (hit.getD { digits := significand, exponent := exponent })

/-! ## Layout -/

/-- How the digits of a number are laid out: the positions of the decimal point for which the
number is written without an exponent, and the words for what is not finite. -/
structure Layout where
  leastPoint : Int
  greatestPoint : Int
  infinity : String
  notANumber : String

/-- Numbers are written without an exponent from `0.0001` to below `10 ^ 16`. -/
def plainLayout : Layout :=
  { leastPoint := -3, greatestPoint := 16, infinity := "inf", notANumber := "nan" }

/-- A JSON document spells what is not finite with capital letters. -/
def documentLayout : Layout :=
  { plainLayout with infinity := "Infinity", notANumber := "NaN" }

/-- The text of an exponent: a sign and at least two digits. -/
def exponentText (e : Int) : String :=
  let digits := toString e.natAbs
  (if e < 0 then "e-" else "e+") ++ (if digits.length < 2 then "0" ++ digits else digits)

/-- The text of the digits `ds` with the decimal point at position `point`. -/
def Layout.write (layout : Layout) (ds : List Char) (point : Int) : String :=
  if layout.leastPoint ≤ point ∧ point ≤ layout.greatestPoint then
    if point ≤ 0 then
      "0." ++ String.ofList (List.replicate (-point).toNat '0' ++ ds)
    else if ds.length ≤ point.toNat then
      String.ofList (ds ++ List.replicate (point.toNat - ds.length) '0') ++ ".0"
    else
      String.ofList (ds.take point.toNat) ++ "." ++ String.ofList (ds.drop point.toNat)
  else
    let lead := String.ofList (ds.take 1)
    let rest := ds.drop 1
    let fraction := if rest.isEmpty then "" else "." ++ String.ofList rest
    lead ++ fraction ++ exponentText (point - 1)

/-- The text of a number in a layout. -/
def text (layout : Layout) : Binary64 → String
  | nan => layout.notANumber
  | infinite negative => (if negative then "-" else "") ++ layout.infinity
  | finite negative 0 _ => (if negative then "-" else "") ++ "0.0"
  | finite negative m e =>
    let d := shortest m e
    let ds := Nat.toDigits 10 d.digits
    (if negative then "-" else "") ++ layout.write ds (ds.length + d.exponent)

end Binary64

end EvmLocator
