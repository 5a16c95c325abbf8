/- Text as a list of code points.

   Everything the engine reads, quotes and prints is a `Text`. It is not a `String`
   because a JSON escape can name one half of a surrogate pair, which no `Char` is;
   positions and offsets count code points, so a list is the natural view. String
   literals coerce to texts, and `ofString_inj` says that nothing is lost on the way. -/

namespace InfixLogic

/-- A code point: a character, or half of a surrogate pair standing alone (`lone n` is
U+D800 plus `n`). -/
inductive CodePoint where
  | char (c : Char)
  | lone (n : Fin 2048)
  deriving DecidableEq, Repr

namespace CodePoint

/-- The number of a code point. -/
def value : CodePoint → Nat
  | .char c => c.toNat
  | .lone n => 0xD800 + n

/-- The code point with a given number; a number outside the code space gives U+0000. -/
def ofNat (n : Nat) : CodePoint :=
  if h : 0xD800 ≤ n ∧ n < 0xE000 then .lone ⟨n - 0xD800, by omega⟩ else .char (Char.ofNat n)

/-- Whether a number lies in one of the ranges of a table, both ends included. The ranges
ascend, so the search stops at the first one that starts above the number. -/
def inRanges (n : Nat) : List (Nat × Nat) → Bool
  | [] => false
  | (first, last) :: rest => if n < first then false else n ≤ last || inRanges n rest

/-- The value of a hexadecimal digit of either case. -/
def hexDigit? : CodePoint → Option Nat
  | .char c =>
    if '0' ≤ c ∧ c ≤ '9' then some (c.toNat - '0'.toNat)
    else if 'a' ≤ c ∧ c ≤ 'f' then some (c.toNat - 'a'.toNat + 10)
    else if 'A' ≤ c ∧ c ≤ 'F' then some (c.toNat - 'A'.toNat + 10)
    else none
  | .lone _ => none

end CodePoint

abbrev Text := List CodePoint

namespace Text

def ofChars (cs : List Char) : Text := cs.map .char

def ofString (s : String) : Text := ofChars s.toList

instance : Coe String Text := ⟨ofString⟩

theorem ofChars_inj {a b : List Char} : ofChars a = ofChars b ↔ a = b :=
  List.map_inj_right fun _ _ e => CodePoint.char.inj e

/-- Distinct strings are distinct texts. -/
@[simp] theorem ofString_inj {a b : String} : ofString a = ofString b ↔ a = b := by
  simp [ofString, ofChars_inj, String.toList_inj]

/-- The string of a text; a lone half becomes U+FFFD, which is how it is shown. -/
def shown (t : Text) : String :=
  String.ofList (t.map fun
    | .char c => c
    | .lone _ => Char.ofNat 0xFFFD)

def ofNat (n : Nat) : Text := ofChars (Nat.toDigits 10 n)

def ofInt : Int → Text
  | .ofNat n => ofNat n
  | .negSucc n => .char '-' :: ofNat (n + 1)

/-- The texts one after another with a separator between them. -/
def join (separator : Text) : List Text → Text
  | [] => []
  | [t] => t
  | t :: rest => t ++ separator ++ join separator rest

/-- Fills a text up to a width with blanks on its left. -/
def alignRight (width : Nat) (t : Text) : Text :=
  List.replicate (width - t.length) (.char ' ') ++ t

/-- Fills a text up to a width with blanks on its right. -/
def alignLeft (width : Nat) (t : Text) : Text :=
  t ++ List.replicate (width - t.length) (.char ' ')

/-- A number in lower-case hexadecimal, filled up to a width with zeros. -/
def hex (width n : Nat) : Text :=
  let digits := ofChars (Nat.toDigits 16 n)
  List.replicate (width - digits.length) (.char '0') ++ digits

end Text

end InfixLogic
