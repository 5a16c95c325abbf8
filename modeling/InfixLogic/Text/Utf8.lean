import InfixLogic.Text.Basic

/- Text as it is stored in bytes.

   Bytes are read one after another. The first byte of a character says how many bytes are to
   follow and which ones may come next; with these bounds no character is spelled with more bytes
   than it needs, and neither half of a surrogate pair is spelled at all. Bytes that make up no
   character end where the next one cannot follow them, and reading starts anew there. -/

namespace InfixLogic

/-- Why some bytes make up no character. -/
inductive Utf8Flaw where
  /-- The byte starts no character. -/
  | start
  /-- What follows does not go on with the character. -/
  | continuation
  /-- Nothing follows. -/
  | ending
  deriving DecidableEq, Repr

def Utf8Flaw.text : Utf8Flaw → Text
  | .start => "invalid start byte"
  | .continuation => "invalid continuation byte"
  | .ending => "unexpected end of data"

/-- Bytes that make up no character, and the place of the first of them. -/
structure Utf8Fault where
  position : Nat
  bytes : List UInt8
  flaw : Utf8Flaw
  deriving DecidableEq, Repr

def Utf8Fault.message (f : Utf8Fault) : Text :=
  let named : Text :=
    match f.bytes with
    | [b] => "byte 0x" ++ Text.hex 2 b.toNat ++ " in position " ++ Text.ofNat f.position
    | bs =>
      "bytes in position " ++ Text.ofNat f.position ++ "-" ++
        Text.ofNat (f.position + bs.length - 1)
  "'utf-8' codec can't decode " ++ named ++ ": " ++ f.flaw.text

namespace Utf8

/-- What bytes are read as. -/
inductive Piece where
  | char (c : Char)
  | broken (bytes : List UInt8) (flaw : Utf8Flaw)
  deriving DecidableEq, Repr

/-- A character that is not complete: its bytes so far, their number, how many are still due, and
the bounds of the next one. -/
structure Pending where
  bytes : List UInt8
  number : Nat
  due : Nat
  least : UInt8
  greatest : UInt8
  deriving DecidableEq, Repr

/-- Reads a byte where no character is pending. -/
def start (b : UInt8) : List Piece × Option Pending :=
  let wait (span due : Nat) (least greatest : UInt8) : List Piece × Option Pending :=
    ([], some ⟨[b], b.toNat % span, due, least, greatest⟩)
  if b < 0x80 then ([.char (Char.ofNat b.toNat)], none)
  else if b < 0xC2 then ([.broken [b] .start], none)
  else if b < 0xE0 then wait 0x20 1 0x80 0xBF
  else if b < 0xF0 then
    wait 0x10 2 (if b = 0xE0 then 0xA0 else 0x80) (if b = 0xED then 0x9F else 0xBF)
  else if b < 0xF5 then
    wait 0x08 3 (if b = 0xF0 then 0x90 else 0x80) (if b = 0xF4 then 0x8F else 0xBF)
  else ([.broken [b] .start], none)

/-- Goes on with a character. -/
def Pending.next (p : Pending) (b : UInt8) : List Piece × Option Pending :=
  let number := p.number * 0x40 + b.toNat % 0x40
  if p.due = 1 then ([.char (Char.ofNat number)], none)
  else ([], some ⟨p.bytes ++ [b], number, p.due - 1, 0x80, 0xBF⟩)

def step (pending : Option Pending) (b : UInt8) : List Piece × Option Pending :=
  match pending with
  | none => start b
  | some p =>
    if p.least ≤ b ∧ b ≤ p.greatest then p.next b
    else (.broken p.bytes .continuation :: (start b).1, (start b).2)

/-- What bytes are read as behind a pending character. -/
def piecesFrom : Option Pending → List UInt8 → List Piece
  | none, [] => []
  | some p, [] => [.broken p.bytes .ending]
  | pending, b :: rest => (step pending b).1 ++ piecesFrom (step pending b).2 rest

def pieces (bytes : List UInt8) : List Piece := piecesFrom none bytes

/-- The text of some pieces, the first of which stands at a position. -/
def textFrom (position : Nat) : List Piece → Except Utf8Fault Text
  | [] => .ok []
  | .char c :: rest => (textFrom (position + c.utf8Size) rest).map (.char c :: ·)
  | .broken bytes flaw :: _ => .error ⟨position, bytes, flaw⟩

end Utf8

namespace Text

/-- The text that some bytes spell. -/
def ofUtf8 (bytes : List UInt8) : Except Utf8Fault Text := Utf8.textFrom 0 (Utf8.pieces bytes)

/-- The text that some bytes spell, where U+FFFD stands for those that make up no character. -/
def ofBytes (bytes : List UInt8) : Text :=
  (Utf8.pieces bytes).map fun
    | .char c => .char c
    | .broken _ _ => .char (Char.ofNat 0xFFFD)

end Text

end InfixLogic
