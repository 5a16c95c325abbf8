import InfixLogic.Value

/- Lexemes of a JSON text.

   A text splits into blanks, six punctuation marks, strings, and bare words: longest runs of
   letters, digits, signs and points, which are a literal or a number. Cutting bare words at
   their longest loses nothing, since no value may follow another without a mark between them.
   Besides the literals of the standard there are `NaN`, `Infinity` and `-Infinity`. Where a text
   does not go on with a lexeme, its lexemes end in one that no value has. -/

namespace InfixLogic.Json

/-- A lexeme; literals, numbers and strings are values already. An integer of too many digits is
kept as their number, and `junk` is where a text stops being one of lexemes. -/
inductive Lexeme where
  | openList
  | closeList
  | openObject
  | closeObject
  | comma
  | colon
  | scalar (v : Value)
  | longNumber (digits : Nat)
  | junk
  deriving Repr

/-! ## Strings -/

/-- A piece of a string: a code point that is given directly, or a UTF-16 unit that is given
by its number. -/
inductive Piece where
  | plain (c : CodePoint)
  | unit (n : Nat)
  deriving DecidableEq, Repr

namespace Piece

/-- The code point a piece stands for on its own. -/
def codePoint : Piece → CodePoint
  | .plain c => c
  | .unit n => CodePoint.ofNat n

/-- Joins the two halves of a surrogate pair where they follow each other as units. -/
def pairUp : List Piece → List Piece
  | [] => []
  | .plain c :: rest => .plain c :: pairUp rest
  | .unit high :: rest =>
    match pairUp rest with
    | .unit low :: rest' =>
      if 0xD800 ≤ high ∧ high < 0xDC00 ∧ 0xDC00 ≤ low ∧ low < 0xE000 then
        .plain (CodePoint.ofNat (0x10000 + (high - 0xD800) * 0x400 + (low - 0xDC00))) :: rest'
      else .unit high :: .unit low :: rest'
    | rest' => .unit high :: rest'

/-- The text of a list of pieces. -/
def text (ps : List Piece) : Text := (pairUp ps).map codePoint

end Piece

def hexUnit? (a b c d : CodePoint) : Option Nat := do
  let a ← a.hexDigit?
  let b ← b.hexDigit?
  let c ← c.hexDigit?
  let d ← d.hexDigit?
  pure (((a * 16 + b) * 16 + c) * 16 + d)

/-- The character that a backslash and one more character stand for. -/
def escape? : CodePoint → Option CodePoint
  | .char '"' => some (.char '"')
  | .char '\\' => some (.char '\\')
  | .char '/' => some (.char '/')
  | .char 'b' => some (.char '\x08')
  | .char 'f' => some (.char '\x0c')
  | .char 'n' => some (.char '\n')
  | .char 'r' => some (.char '\r')
  | .char 't' => some (.char '\t')
  | _ => none

/-- The pieces of a string up to its closing quote, and what follows the quote. Control
characters have to be escaped. -/
def stringBody? : Text → Option (List Piece × Text)
  | [] => none
  | .char '"' :: rest => some ([], rest)
  | .char '\\' :: .char 'u' :: a :: b :: c :: d :: rest => do
    let n ← hexUnit? a b c d
    let (ps, after) ← stringBody? rest
    pure (.unit n :: ps, after)
  | .char '\\' :: e :: rest => do
    let c ← escape? e
    let (ps, after) ← stringBody? rest
    pure (.plain c :: ps, after)
  | c :: rest =>
    if c.value < 0x20 then none
    else do
      let (ps, after) ← stringBody? rest
      pure (.plain c :: ps, after)

/-- A string ends within the text. -/
theorem length_of_stringBody? {t after : Text} {ps : List Piece}
    (h : stringBody? t = some (ps, after)) : after.length < t.length := by
  fun_induction stringBody? t generalizing ps after with
  | case1 => simp at h
  | case2 => simp_all
  | case3 a b c d rest ih =>
    simp only [bind, pure, Option.bind_eq_some_iff, Option.some.injEq, Prod.mk.injEq,
      Prod.exists] at h
    obtain ⟨_, _, _, _, h, _, rfl⟩ := h
    have := ih h
    simp only [List.length_cons]
    omega
  | case4 e rest _ ih =>
    simp only [bind, pure, Option.bind_eq_some_iff, Option.some.injEq, Prod.mk.injEq,
      Prod.exists] at h
    obtain ⟨_, _, _, _, h, _, rfl⟩ := h
    have := ih h
    simp only [List.length_cons]
    omega
  | case5 => simp at h
  | case6 c rest _ _ _ _ ih =>
    simp only [bind, pure, Option.bind_eq_some_iff, Option.some.injEq, Prod.mk.injEq,
      Prod.exists] at h
    obtain ⟨_, _, h, _, rfl⟩ := h
    have := ih h
    simp only [List.length_cons]
    omega

/-! ## Bare words -/

def isDigit : CodePoint → Bool
  | .char c => c.isDigit
  | .lone _ => false

/-- Whether a code point can stand in a bare word. -/
def isBare : CodePoint → Bool
  | .char c => c.isAlphanum || c == '+' || c == '-' || c == '.'
  | .lone _ => false

/-- The number that a run of digits gives. -/
def digits (ds : Text) : Nat := ds.foldl (fun n c => n * 10 + (c.value - '0'.toNat)) 0

/-- A word as an exponent: a mark, a sign that may be missing, and digits. -/
def exponent? : Text → Option Int
  | .char 'e' :: rest | .char 'E' :: rest =>
    let (negative, ds) :=
      match rest with
      | .char '-' :: ds => (true, ds)
      | .char '+' :: ds => (false, ds)
      | ds => (false, ds)
    if ds.isEmpty || !ds.all isDigit then none
    else some (if negative then -(digits ds : Int) else digits ds)
  | _ => none

/-- A word as a number. Without a fraction and an exponent it is an integer. -/
def number? (word : Text) : Option Value :=
  let (negative, rest) :=
    match word with
    | .char '-' :: rest => (true, rest)
    | rest => (false, rest)
  let whole := rest.takeWhile isDigit
  let rest := rest.dropWhile isDigit
  if whole.isEmpty || (whole.length != 1 && whole.head? == some (.char '0')) then none
  else
    let (point, fraction, rest) :=
      match rest with
      | .char '.' :: rest => (true, rest.takeWhile isDigit, rest.dropWhile isDigit)
      | rest => (false, [], rest)
    if point && fraction.isEmpty then none
    else if rest.isEmpty && !point then
      some (.int (if negative then -(digits whole : Int) else digits whole))
    else do
      let x ← if rest.isEmpty then some 0 else exponent? rest
      pure (.float (Binary64.ofDecimal negative (digits (whole ++ fraction)) (x - fraction.length)))

def maxDigits : Nat := 4300

def startsFraction : Text → Bool
  | .char '.' :: c :: _ => isDigit c
  | _ => false

def startsExponent : Text → Bool
  | .char e :: .char '+' :: c :: _ | .char e :: .char '-' :: c :: _ =>
    (e == 'e' || e == 'E') && isDigit c
  | .char e :: c :: _ => (e == 'e' || e == 'E') && isDigit c
  | _ => false

/-- The number of digits of the integer that a word starts with, if it has too many. A number
that goes on with a fraction or an exponent is no integer. -/
def longNumber? (word : Text) : Option Nat :=
  let unsigned :=
    match word with
    | .char '-' :: rest => rest
    | rest => rest
  let whole := unsigned.takeWhile isDigit
  let rest := unsigned.dropWhile isDigit
  if maxDigits < whole.length && whole.head? != some (.char '0') && !startsFraction rest &&
      !startsExponent rest then
    some whole.length
  else none

/-- The bit patterns of the numbers that have a name. -/
def notANumber : UInt64 := 0x7FF8000000000000

/-- The value of a bare word. -/
def word? (word : Text) : Option Value :=
  if word = "null" then some .null
  else if word = "true" then some (.bool true)
  else if word = "false" then some (.bool false)
  else if word = "NaN" then some (.float notANumber)
  else if word = "Infinity" then some (.float Binary64.infinity.toUInt64)
  else if word = "-Infinity" then
    some (.float (Binary64.signBit true + Binary64.infinity).toUInt64)
  else number? word

/-- The lexeme of a bare word. -/
def wordLexeme (word : Text) : Lexeme :=
  match longNumber? word with
  | some n => .longNumber n
  | none =>
    match word? word with
    | some v => .scalar v
    | none => .junk

/-! ## Splitting -/

def isBlank (c : CodePoint) : Bool :=
  c == .char ' ' || c == .char '\t' || c == .char '\n' || c == .char '\r'

def mark? : CodePoint → Option Lexeme
  | .char '[' => some .openList
  | .char ']' => some .closeList
  | .char '\x7b' => some .openObject
  | .char '\x7d' => some .closeObject
  | .char ',' => some .comma
  | .char ':' => some .colon
  | _ => none

/-- The lexemes of a text. -/
def lexemes : Text → List Lexeme
  | [] => []
  | c :: rest =>
    if isBlank c then lexemes rest
    else if c = .char '"' then
      match _h : stringBody? rest with
      | some (ps, after) => .scalar (.str (Piece.text ps)) :: lexemes after
      | none => [.junk]
    else if isBare c then
      wordLexeme (c :: rest.takeWhile isBare) :: lexemes (rest.dropWhile isBare)
    else
      match mark? c with
      | some l => l :: lexemes rest
      | none => [.junk]
termination_by t => t.length
decreasing_by
  · simp
  · have := length_of_stringBody? ‹_›
    simp only [List.length_cons]
    omega
  · have := (List.dropWhile_sublist isBare (l := rest)).length_le
    simp only [List.length_cons]
    omega
  · simp

end InfixLogic.Json
