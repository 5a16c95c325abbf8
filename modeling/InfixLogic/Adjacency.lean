import InfixLogic.Vocabulary

/- The rules for neighbouring tokens.

   An expression is scanned once from left to right, each token with the one before it and the
   one after it; the first rule that is broken is the fault. The rules do not look at balance:
   that is left to the conversion to postfix. -/

namespace InfixLogic

namespace Vocabulary

/-- Operands are in the vocabulary. -/
def checkOperand (v : Vocabulary) (i : Nat) (t : Token) : Except Fault Unit :=
  if t.isOperand && !v.defines t then .error (.unknownOperand t.name i) else .ok ()

/-- Where an operand ends, no operand begins. -/
def checkSeparated (i : Nat) (t : Token) (next : Option Token) : Except Fault Unit :=
  if t.closesOperand && next.any (·.opensOperand) then .error (.missingOperator (i + 1))
  else .ok ()

/-- Parentheses hold something. -/
def checkGroup (i : Nat) (t : Token) (next : Option Token) : Except Fault Unit :=
  if t.tag == .leftParen && next.any (·.tag == .rightParen) then .error (.emptyGroup i)
  else .ok ()

/-- A binary operator has a neighbour on each side, and behind it on the left is no operator
and no opening parenthesis. -/
def checkBinary (previous : Option Token) (i : Nat) (t : Token) (next : Option Token) :
    Except Fault Unit :=
  if !t.isBinary then .ok ()
  else
    match previous, next with
    | some p, some _ =>
      if p.tag == .operator || p.tag == .leftParen then .error (.binaryAfterOpening i) else .ok ()
    | _, _ => .error (.danglingOperator i)

/-- No binary operator follows an operator of another arity. -/
def checkNegation (i : Nat) (t : Token) (next : Option Token) : Except Fault Unit :=
  if t.isOperator && !t.isBinary && next.any (·.isBinary) then
    .error (.binaryAfterNegation (i + 1))
  else .ok ()

/-- All rules for the token at a position, in order. -/
def checkToken (v : Vocabulary) (previous : Option Token) (i : Nat) (t : Token)
    (next : Option Token) : Except Fault Unit := do
  v.checkOperand i t
  checkSeparated i t next
  checkGroup i t next
  checkBinary previous i t next
  checkNegation i t next

/-- The rules for every token from a position on. -/
def checkFrom (v : Vocabulary) (previous : Option Token) (i : Nat) : List Token → Except Fault Unit
  | [] => .ok ()
  | t :: rest => do
    v.checkToken previous i t rest.head?
    v.checkFrom (some t) (i + 1) rest

/-- Checks an expression: it has items, they are tokens, and they keep to the rules. -/
def validate (v : Vocabulary) (items : List Item) : Except Fault Unit := do
  if items.isEmpty then .error .empty
  let ts ← items.mapM v.canonical
  v.checkFrom none 0 ts

def isValid (v : Vocabulary) (items : List Item) : Bool := (v.validate items).toBool

end Vocabulary

end InfixLogic
