import InfixLogic.Text.Utf8

/- Percent-decoding.

   A percent sign with two hexadecimal digits stands for the byte of that number. Bytes that stand
   side by side are read as UTF-8, and U+FFFD stands for those that make up no character. A percent
   sign without two such digits stands for itself, and so does all else. -/

namespace InfixLogic

namespace Percent

/-- A text as a run of bytes that are given by their numbers and of code points. -/
def pieces : Text → List (UInt8 ⊕ CodePoint)
  | .char '%' :: a :: b :: rest =>
    match a.hexDigit?, b.hexDigit? with
    | some x, some y => .inl (UInt8.ofNat (16 * x + y)) :: pieces rest
    | _, _ => .inr (.char '%') :: pieces (a :: b :: rest)
  | c :: rest => .inr c :: pieces rest
  | [] => []

/-- The text of a run behind some bytes. -/
def spell (bytes : List UInt8) : List (UInt8 ⊕ CodePoint) → Text
  | [] => Text.ofBytes bytes
  | .inl b :: rest => spell (bytes ++ [b]) rest
  | .inr c :: rest => Text.ofBytes bytes ++ c :: spell [] rest

end Percent

/-- The text that a percent-encoded text stands for. -/
def Text.percentDecoded (t : Text) : Text := Percent.spell [] (Percent.pieces t)

end InfixLogic
