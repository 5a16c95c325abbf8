import InfixLogic.Token
import InfixLogic.Connective
import InfixLogic.Json.Reader

/- What can be wrong with an expression.

   A `Fault` is a cause, with what it is about. Each has a kind, most have the position of the
   token at fault, and some have words of their own; `Fault.report` puts these together, and
   `Report.message` is the text that is shown. -/

namespace InfixLogic

inductive FaultKind where
  | emptyExpression
  | missingOperator
  | danglingOperator
  | invalidOperatorPlacement
  | emptyGroup
  | mismatchedParentheses
  | incompleteExpression
  | unknownOperator
  | unknownToken
  deriving DecidableEq, Repr

namespace FaultKind

def all : List FaultKind := [
  .emptyExpression, .missingOperator, .danglingOperator, .invalidOperatorPlacement, .emptyGroup,
  .mismatchedParentheses, .incompleteExpression, .unknownOperator, .unknownToken]

def name : FaultKind → Text
  | .emptyExpression => "EMPTY_EXPRESSION"
  | .missingOperator => "MISSING_OPERATOR"
  | .danglingOperator => "DANGLING_OPERATOR"
  | .invalidOperatorPlacement => "INVALID_OPERATOR_PLACEMENT"
  | .emptyGroup => "EMPTY_GROUP"
  | .mismatchedParentheses => "MISMATCHED_PARENTHESES"
  | .incompleteExpression => "INCOMPLETE_EXPRESSION"
  | .unknownOperator => "UNKNOWN_OPERATOR"
  | .unknownToken => "UNKNOWN_TOKEN"

/-- What is said about a kind when there is nothing more to say. -/
def text : FaultKind → Text
  | .emptyExpression => "Empty expression"
  | .missingOperator => "Missing operator between operands"
  | .danglingOperator => "Binary operator needs operands on both sides"
  | .invalidOperatorPlacement => "Invalid operator placement"
  | .emptyGroup => "Parentheses must contain an operand"
  | .mismatchedParentheses => "Mismatched parentheses"
  | .incompleteExpression => "Incomplete expression"
  | .unknownOperator => "Unknown operator"
  | .unknownToken => "Unknown token"

end FaultKind

/-- A fault as it is shown: its kind, the position of the token at fault, and words that replace
those of the kind. -/
structure Report where
  kind : FaultKind
  position : Option Int
  detail : Option Text
  deriving DecidableEq, Repr

/-- The message of a report: its own words if it has some, else those of its kind, and the
position at the end. -/
def Report.message (r : Report) : Text :=
  let words :=
    match r.detail with
    | some (c :: cs) => c :: cs
    | _ => r.kind.text
  match r.position with
  | some p => words ++ " (at token " ++ Text.ofInt p ++ ")"
  | none => words

inductive Fault where
  | empty
  /-- An item is no token; it is kept as it is written. -/
  | notToken (written : Text)
  /-- An operand is not in the vocabulary. -/
  | unknownOperand (name : Text) (position : Nat)
  /-- An operand begins where an operator was due. -/
  | missingOperator (position : Nat)
  | emptyGroup (position : Nat)
  /-- A binary operator stands first or last. -/
  | danglingOperator (position : Nat)
  /-- A binary operator stands behind an operator or an opening parenthesis. -/
  | binaryAfterOpening (position : Nat)
  /-- A binary operator stands behind an operator of another arity. -/
  | binaryAfterNegation (position : Nat)
  | unmatchedClosing (position : Nat)
  | unmatchedOpening
  /-- A postfix sequence holds what is no connective. -/
  | unknownOperator (token : Token) (position : Nat)
  /-- A connective finds fewer values than it takes. -/
  | starved (connective : Connective) (position : Nat)
  /-- The number of values at the end is not one. -/
  | leftover (count : Nat)
  /-- A word of a text, at an offset and behind some tokens, names no operand. -/
  | unknownWord (word : Text) (offset tokens : Nat)
  /-- No lexeme starts with a code point of a text. -/
  | unexpected (c : CodePoint) (offset tokens : Nat)
  /-- No operand has the name that is written so. -/
  | noOperand (written : Text)
  /-- No operator has the name or symbol that is written so. -/
  | noOperator (written : Text)
  /-- A value is no object with a type. -/
  | malformed (written : Text)
  /-- An object has a type that no token has. -/
  | unknownType (written : Text)
  | notList
  deriving DecidableEq, Repr

namespace Fault

def kind : Fault → FaultKind
  | .empty => .emptyExpression
  | .missingOperator _ => .missingOperator
  | .emptyGroup _ => .emptyGroup
  | .danglingOperator _ => .danglingOperator
  | .binaryAfterOpening _ | .binaryAfterNegation _ => .invalidOperatorPlacement
  | .unmatchedClosing _ | .unmatchedOpening => .mismatchedParentheses
  | .unknownOperator _ _ => .unknownOperator
  | .starved _ _ | .leftover _ => .incompleteExpression
  | .notToken _ | .unknownOperand _ _ | .unknownWord _ _ _ | .unexpected _ _ _ | .noOperand _
  | .noOperator _ | .malformed _ | .unknownType _ | .notList => .unknownToken

def position : Fault → Option Nat
  | .unknownOperand _ p | .missingOperator p | .emptyGroup p | .danglingOperator p
  | .binaryAfterOpening p | .binaryAfterNegation p | .unmatchedClosing p | .unknownOperator _ p
  | .starved _ p | .unknownWord _ _ p | .unexpected _ _ p => some p
  | .empty | .notToken _ | .unmatchedOpening | .leftover _ | .noOperand _ | .noOperator _
  | .malformed _ | .unknownType _ | .notList => none

/-- What is said about a fault in place of the words of its kind. -/
def detail : Fault → Option Text
  | .notToken w => some ("Not a token: " ++ w)
  | .unknownOperand name _ => some ("Unknown operand: " ++ name.quoted)
  | .binaryAfterOpening _ => some "Binary operator cannot follow an operator or ("
  | .binaryAfterNegation _ => some "! must be followed by an operand, ! or ("
  | .starved .not _ => some "Invalid unary operator placement"
  | .starved c _ => some ("Invalid " ++ c.name ++ " placement")
  | .unknownWord word offset _ =>
    some ("Unknown operand " ++ word.quoted ++ " at offset " ++ Text.ofNat offset)
  | .unexpected c offset _ =>
    some ("Unexpected character " ++ Text.quoted [c] ++ " at offset " ++ Text.ofNat offset)
  | .noOperand w => some ("Unknown operand: " ++ w)
  | .noOperator w => some ("Unknown operator: " ++ w)
  | .malformed w => some ("Malformed token: " ++ w)
  | .unknownType w => some ("Unknown token type: " ++ w)
  | .notList => some "Token list must be a JSON array"
  | .empty | .missingOperator _ | .emptyGroup _ | .danglingOperator _ | .unmatchedClosing _
  | .unmatchedOpening | .unknownOperator _ _ | .leftover _ => none

def report (f : Fault) : Report := ⟨f.kind, f.position.map Int.ofNat, f.detail⟩

def message (f : Fault) : Text := f.report.message

end Fault

/-- Why an operation has no answer: a fault of an expression, a list or object that was to be
looked up in a table, a text that is refused as JSON, columns whose lengths differ, or a
connective applied to the wrong number of operands. -/
inductive Failure where
  | fault (f : Fault)
  | noKey
  | json (r : Json.Refusal)
  | unequalLengths
  | wrongArity
  deriving DecidableEq, Repr

end InfixLogic
