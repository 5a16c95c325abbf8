import InfixLogic.Vocabulary
import InfixLogic.Text.Blank
import InfixLogic.Text.Numeral
import InfixLogic.Text.CaseMap

/- Expressions as they are typed.

   A text splits into blanks and lexemes: parentheses, the symbols of the connectives, and
   words. A word is a longest run of letters and numerals that starts with a letter, and its
   upper-case form has to name an operand. Blanks are only needed between two words. -/

namespace InfixLogic

inductive Lexeme where
  | leftParen
  | rightParen
  | connective (c : Connective)
  | word (initial : CodePoint) (rest : Text)
  deriving DecidableEq, Repr

namespace Lexeme

def text : Lexeme → Text
  | .leftParen => "("
  | .rightParen => ")"
  | .connective c => c.symbol
  | .word initial rest => initial :: rest

/-- The lexeme that a text starts with. -/
def ofText? : Text → Option Lexeme
  | [] => none
  | .char '(' :: _ => some .leftParen
  | .char ')' :: _ => some .rightParen
  | .char '!' :: _ => some (.connective .not)
  | .char '&' :: .char '&' :: _ => some (.connective .and)
  | .char '|' :: .char '|' :: _ => some (.connective .or)
  | c :: rest =>
    if c.isLetter then some (.word c (rest.takeWhile CodePoint.isAlphanumeric)) else none

/-- A lexeme is not empty. -/
theorem length_text_pos (l : Lexeme) : 0 < l.text.length := by
  cases l with
  | leftParen => decide
  | rightParen => decide
  | connective c => cases c <;> decide
  | word => simp [text]

/-- The token of a lexeme; a word has none if its upper-case form names no operand. -/
def token? (v : Vocabulary) : Lexeme → Option Token
  | .leftParen => some .leftParen
  | .rightParen => some .rightParen
  | .connective c => some (v.operator c)
  | .word initial rest => v.operand? (Text.upper (initial :: rest))

end Lexeme

namespace Vocabulary

/-- The tokens of the part of a text that starts at an offset and has some tokens before it. -/
def tokenizeFrom (v : Vocabulary) (offset count : Nat) : Text → Except Fault (List Token)
  | [] => .ok []
  | c :: rest =>
    if c.isBlank then v.tokenizeFrom (offset + 1) count rest
    else
      match Lexeme.ofText? (c :: rest) with
      | none => .error (.unexpected c offset count)
      | some l =>
        match l.token? v with
        | none => .error (.unknownWord l.text offset count)
        | some t => do
          let n := l.text.length
          let ts ← v.tokenizeFrom (offset + n) (count + 1) ((c :: rest).drop n)
          pure (t :: ts)
termination_by t => t.length
decreasing_by
  · simp
  · have := l.length_text_pos
    simp only [List.length_drop, List.length_cons]
    omega

def tokenize (v : Vocabulary) (t : Text) : Except Fault (List Token) := v.tokenizeFrom 0 0 t

end Vocabulary

end InfixLogic
