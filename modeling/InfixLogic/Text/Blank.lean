import InfixLogic.Text.Basic

/- Blanks: the code points that separate lexemes and are trimmed from options.

   The class is the space separators together with the characters whose bidirectional class
   is whitespace, a paragraph or a segment separator. The information separators U+001C to
   U+001F belong to it; U+200B and U+FEFF do not. -/

namespace InfixLogic

namespace CodePoint

def blankRanges : List (Nat × Nat) := [
  (0x09, 0x0D), (0x1C, 0x20), (0x85, 0x85), (0xA0, 0xA0), (0x1680, 0x1680), (0x2000, 0x200A),
  (0x2028, 0x2029), (0x202F, 0x202F), (0x205F, 0x205F), (0x3000, 0x3000)]

/-- Whether a code point is blank. -/
def isBlank : CodePoint → Bool
  | .char c => inRanges c.toNat blankRanges
  | .lone _ => false

end CodePoint

/-- A text without the blanks at its two ends. -/
def Text.trim (t : Text) : Text :=
  ((t.dropWhile CodePoint.isBlank).reverse.dropWhile CodePoint.isBlank).reverse

end InfixLogic
