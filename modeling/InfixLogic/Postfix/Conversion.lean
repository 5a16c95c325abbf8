import InfixLogic.Vocabulary

/- From infix to postfix.

   Operands go to the output at once. Operators wait on a stack until one comes that groups
   less strongly, or until their parenthesis closes; an opening parenthesis waits there as a
   marker. The result holds no parentheses. -/

namespace InfixLogic

/-- A conversion under way: the output in reverse, and the stack with its top first. -/
structure Conversion where
  output : List Token
  stack : List Token
  deriving DecidableEq, Repr

namespace Conversion

def start : Conversion := ⟨[], []⟩

/-- Whether an operator lets the top of the stack go first. Where precedences are equal the
operator on the left goes first, unless the one that comes groups to the right. -/
def yields (current top : Token) : Bool :=
  top.tag == .operator &&
    (if current.rightAssoc then current.precedence < top.precedence
     else current.precedence ≤ top.precedence)

/-- Moves the operators that go before an incoming one from the stack to the output. -/
def release (current : Token) : List Token → List Token → Conversion
  | output, [] => ⟨output, []⟩
  | output, top :: stack =>
    if yields current top then release current (top :: output) stack else ⟨output, top :: stack⟩

/-- Moves the stack down to the topmost marker to the output, and drops the marker. -/
def close? : List Token → List Token → Option Conversion
  | _, [] => none
  | output, top :: stack =>
    if top.tag = .leftParen then some ⟨output, stack⟩ else close? (top :: output) stack

/-- Moves the whole stack to the output, if no marker is left on it. -/
def finish? : List Token → List Token → Option (List Token)
  | output, [] => some output.reverse
  | output, top :: stack =>
    if top.tag = .leftParen then none else finish? (top :: output) stack

def step (i : Nat) (t : Token) (s : Conversion) : Except Fault Conversion :=
  match t.tag with
  | .operand => .ok ⟨t :: s.output, s.stack⟩
  | .operator =>
    let s := release t s.output s.stack
    .ok ⟨s.output, t :: s.stack⟩
  | .leftParen => .ok ⟨s.output, t :: s.stack⟩
  | .rightParen =>
    match close? s.output s.stack with
    | some s => .ok s
    | none => .error (.unmatchedClosing i)

end Conversion

namespace Vocabulary

/-- Converts the items from a position on, each in its canonical form. -/
def convertFrom (v : Vocabulary) (i : Nat) (s : Conversion) :
    List Item → Except Fault Conversion
  | [] => .ok s
  | item :: rest => do
    let t ← v.canonical item
    let s ← s.step i t
    v.convertFrom (i + 1) s rest

def toPostfix (v : Vocabulary) (items : List Item) : Except Fault (List Token) := do
  let s ← v.convertFrom 0 .start items
  match Conversion.finish? s.output s.stack with
  | some ts => .ok ts
  | none => .error .unmatchedOpening

end Vocabulary

end InfixLogic
