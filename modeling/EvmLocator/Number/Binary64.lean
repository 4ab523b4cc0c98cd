/-!
# Binary64 numbers, exactly

A number with a fraction is kept as the binary64 number nearest to the decimal that was read, in
the form `significand * 2 ^ exponent` with naturals and integers only.  Rounding is exact integer
arithmetic: the quotient nearest to a ratio, a tie to the even one.  The same arithmetic decides
whether such a number equals an integer, so a comparison never loses a digit.
-/

namespace EvmLocator

/-- A binary64 number.  A finite one is `± significand * 2 ^ exponent` with a significand below
`2 ^ 53` and an exponent between `-1074` and `971`. -/
inductive Binary64 where
  | finite (negative : Bool) (significand : Nat) (exponent : Int)
  | infinite (negative : Bool)
  | nan
  deriving DecidableEq

namespace Binary64

/-- The powers of two. -/
def powerOfTwo (k : Nat) : Nat :=
  Nat.pow 2 k

/-- The powers of ten. -/
def powerOfTen (k : Nat) : Nat :=
  Nat.pow 10 k

/-- The exponent of the smallest positive number. -/
def leastExponent : Int := -1074

/-- The greatest exponent of a finite number. -/
def greatestExponent : Int := 971

/-- The integer nearest to `num / den`, the even one of two that are equally near. -/
def roundHalfEven (num den : Nat) : Nat :=
  let q := num / den
  let twice := 2 * (num % den)
  if twice < den then q
  else if den < twice then q + 1
  else if q % 2 = 0 then q else q + 1

/-- The ratio `num / den` divided by `2 ^ e`, again as a ratio. -/
def scaleDown (num den : Nat) (e : Int) : Nat × Nat :=
  if e < 0 then (num * powerOfTwo (-e).toNat, den) else (num, den * powerOfTwo e.toNat)

/-- The number nearest to `± num / den`, where both are positive. -/
def ofRatio (negative : Bool) (num den : Nat) : Binary64 :=
  let guess : Int := (num.log2 : Int) - den.log2 - 52
  let scaled := scaleDown num den guess
  let e := if scaled.1 < powerOfTwo 52 * scaled.2 then guess - 1 else guess
  let e := max e leastExponent
  let scaled := scaleDown num den e
  let m := roundHalfEven scaled.1 scaled.2
  let (m, e) := if m = powerOfTwo 53 then (powerOfTwo 52, e + 1) else (m, e)
  if greatestExponent < e then infinite negative else finite negative m e

/-- The number of decimal digits of a positive natural number, and one for zero. -/
def digitCount (n : Nat) : Nat :=
  (Nat.toDigits 10 n).length

/-- The number nearest to `± coefficient * 10 ^ exponent`.  A magnitude that is out of every
number's reach is settled by its number of digits, so that no huge power is ever computed. -/
def ofDecimal (negative : Bool) (coefficient : Nat) (exponent : Int) : Binary64 :=
  if coefficient = 0 then finite negative 0 leastExponent
  else if 400 < exponent + digitCount coefficient then infinite negative
  else if exponent + digitCount coefficient < -400 then finite negative 0 leastExponent
  else if exponent < 0 then ofRatio negative coefficient (powerOfTen (-exponent).toNat)
  else ofRatio negative (coefficient * powerOfTen exponent.toNat) 1

/-- Whether the number is zero, of either sign. -/
def isZero : Binary64 → Bool
  | finite _ m _ => m == 0
  | _ => false

/-- Whether the number equals the integer `n`. -/
def equalsInt (x : Binary64) (n : Int) : Bool :=
  match x with
  | finite negative m e =>
    let signed : Int := if negative then -(m : Int) else m
    if e < 0 then signed == n * powerOfTwo (-e).toNat else signed * powerOfTwo e.toNat == n
  | _ => false

/-- Whether two numbers are equal: zeros of both signs are, and a NaN equals nothing. -/
def equals : Binary64 → Binary64 → Bool
  | finite s m e, finite t n f => (m == 0 && n == 0) || (s == t && m == n && e == f)
  | infinite s, infinite t => s == t
  | _, _ => false

end Binary64

end EvmLocator
