import InfixLogic.Text.Basic
import InfixLogic.Decimal.Binary64

/- The shortest decimal that reads back as a given binary floating-point number, and the text
   the engine writes for it.

   A decimal reads back as `m * 2 ^ e` if it lies in the interval of reals that round to it;
   the ends belong to the interval if `m` is even. For one digit, two digits and so on the two
   neighbours on that decimal grid are tried; the first grid with a hit wins, and of two hits
   the nearer. Seventeen digits always suffice. -/

namespace InfixLogic

structure Decimal where
  digits : Nat
  exponent : Int
  deriving DecidableEq, Repr

namespace Decimal

/-- `n * 2 ^ a * 10 ^ b` as a fraction. -/
def fraction (n : Nat) (a b : Int) : Nat × Nat :=
  (n * Nat.pow 2 a.toNat * Nat.pow 10 b.toNat, Nat.pow 2 (-a).toNat * Nat.pow 10 (-b).toNat)

/-- Whether `d` in units of `10 ^ k` lies in the interval that rounds to `m * 2 ^ e`. The
interval reaches half a unit up, and half a unit down or a quarter where the next number below
is twice as near. -/
def readsBack (m : Nat) (e : Int) (k : Int) (d : Nat) : Bool :=
  let below := if m = Binary64.fractions ∧ Binary64.minExponent < e then 1 else 2
  let (low, lowDen) := fraction (4 * m - below) (e - 2) (-k)
  let (high, highDen) := fraction (4 * m + 2) (e - 2) (-k)
  if m % 2 = 0 then low ≤ d * lowDen && d * highDen ≤ high
  else low < d * lowDen && d * highDen < high

/-- The neighbour of `m * 2 ^ e` on the grid of multiples of `10 ^ k` that reads back, if one
does; of two the nearer, and of two equally near the even one. -/
def onGrid? (m : Nat) (e : Int) (k : Int) : Option Nat :=
  let (num, den) := fraction m e (-k)
  let d := num / den
  let twice := 2 * (num % den)
  let up := den < twice || (twice == den && d % 2 == 1)
  match readsBack m e k d, readsBack m e k (d + 1) with
  | true, true => some (if up then d + 1 else d)
  | true, false => some d
  | false, true => some (d + 1)
  | false, false => none

/-- The exponent `p` with `10 ^ p ≤ m * 2 ^ e < 10 ^ (p + 1)`, searched downwards from `p`. -/
def magnitude (m : Nat) (e : Int) : Nat → Int → Int
  | 0, p => p
  | fuel + 1, p =>
    let (num, den) := fraction m e (-p)
    if den ≤ num then p else magnitude m e fuel (p - 1)

/-- The first grid with a hit, from `n` digits on. -/
def search (m : Nat) (e p : Int) : Nat → Nat → Decimal
  | 0, _ => ⟨m, 0⟩
  | fuel + 1, n =>
    let k := p - n + 1
    match onGrid? m e k with
    | some d => ⟨d, k⟩
    | none => search m e p fuel (n + 1)

/-- The shortest decimal that reads back as `m * 2 ^ e`, for a positive `m`. -/
def shortest (m : Nat) (e : Int) : Decimal :=
  search m e (magnitude m e 700 330) 17 1

/-- The digits of a decimal without trailing zeros, and the place of its point: the number is
`0.digits * 10 ^ place`. -/
def normal (d : Decimal) : List Char × Int :=
  let cs := Nat.toDigits 10 d.digits
  ((cs.reverse.dropWhile (· == '0')).reverse, cs.length + d.exponent)

/-- Positional notation, with at least one digit on each side of the point. -/
def positional (cs : List Char) (place : Int) : List Char :=
  if place ≤ 0 then ['0', '.'] ++ List.replicate (-place).toNat '0' ++ cs
  else
    let whole := place.toNat
    let filled := cs ++ List.replicate (whole - cs.length) '0'
    let tail := filled.drop whole
    filled.take whole ++ ['.'] ++ (if tail.isEmpty then ['0'] else tail)

/-- Scientific notation: one digit before the point, no point if nothing follows it, and a
signed exponent of at least two digits. -/
def scientific (cs : List Char) (place : Int) : List Char :=
  let x := place - 1
  let sign := if x < 0 then '-' else '+'
  let digits := Nat.toDigits 10 x.natAbs
  let tail := cs.drop 1
  cs.take 1 ++ (if tail.isEmpty then [] else '.' :: tail) ++ ['e', sign] ++
    List.replicate (2 - digits.length) '0' ++ digits

/-- A decimal is written positionally from `0.0001` up to below `10 ^ 16`. -/
def write (d : Decimal) : List Char :=
  let (cs, place) := d.normal
  if -4 < place ∧ place ≤ 16 then positional cs place else scientific cs place

end Decimal

/-- The text of a binary floating-point number. -/
def Binary64.write : Binary64 → Text
  | .nan => "nan"
  | .infinite negative => if negative then "-inf" else "inf"
  | .finite negative m e =>
    let digits := if m = 0 then ['0', '.', '0'] else (Decimal.shortest m e).write
    Text.ofChars (if negative then '-' :: digits else digits)

end InfixLogic
