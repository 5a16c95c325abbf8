/- Binary floating-point numbers of 64 bits, as exact rationals.

   `decode` reads a bit pattern as a sign and `m * 2 ^ e`; `nearest` gives the pattern of the
   number closest to a fraction, a tie going to the even significand. All arithmetic is exact. -/

namespace InfixLogic

/-- What a bit pattern stands for: `finite negative m e` is `m * 2 ^ e` with that sign. -/
inductive Binary64 where
  | nan
  | infinite (negative : Bool)
  | finite (negative : Bool) (m : Nat) (e : Int)
  deriving DecidableEq, Repr

namespace Binary64

def minExponent : Int := -1074

/-- The number of fractions, `2 ^ 52`; the significand of a normal number is at least that. -/
def fractions : Nat := 0x10000000000000

/-- The weight of the sign bit, `2 ^ 63`. -/
def signWeight : Nat := 0x8000000000000000

/-- The number that a bit pattern stands for. -/
def decode (bits : UInt64) : Binary64 :=
  let n := bits.toNat
  let negative := n / signWeight == 1
  let exponent : Nat := n / fractions % 2048
  let fraction : Nat := n % fractions
  if exponent = 2047 then
    if fraction = 0 then .infinite negative else .nan
  else if exponent = 0 then .finite negative fraction minExponent
  else .finite negative (fractions + fraction) ((exponent : Int) - 1075)

def infinity : Nat := 2047 * fractions

def signBit (negative : Bool) : Nat := if negative then signWeight else 0

/-- The fraction `num / den` in units of `2 ^ e`, again as a fraction. -/
def inUnits (num den : Nat) (e : Int) : Nat × Nat :=
  match e with
  | .ofNat k => (num, den * Nat.pow 2 k)
  | .negSucc k => (num * Nat.pow 2 (k + 1), den)

/-- The integer nearest to a fraction; of two the even one. -/
def roundEven (num den : Nat) : Nat :=
  let q := num / den
  let r := num % den
  if 2 * r < den then q
  else if den < 2 * r then q + 1
  else q + q % 2

/-- The bit pattern, without its sign, of the number nearest to a positive fraction. The
exponent is the one that leaves 53 significant bits, or the least one there is. -/
def nearestMagnitude (num den : Nat) : Nat :=
  let estimate : Int := max ((num.log2 : Int) - den.log2 - 53) minExponent
  let (a, b) := inUnits num den estimate
  let e := if 2 * fractions * b ≤ a then estimate + 1 else estimate
  let (a, b) := inUnits num den e
  let m := roundEven a b
  if m < fractions then m
  else min ((e + 1075).toNat * fractions + (m - fractions)) infinity

/-- The bit pattern of the number nearest to `m * 10 ^ x`. Exponents beyond the range of the
format are answered without computing the power. -/
def ofDecimal (negative : Bool) (m : Nat) (x : Int) : UInt64 :=
  let digits : Int := (Nat.toDigits 10 m).length
  let magnitude :=
    if m = 0 then 0
    else if 310 < digits + x then infinity
    else if digits + x < -330 then 0
    else match x with
      | .ofNat k => nearestMagnitude (m * Nat.pow 10 k) 1
      | .negSucc k => nearestMagnitude m (Nat.pow 10 (k + 1))
  (signBit negative + magnitude).toUInt64

end Binary64

end InfixLogic
