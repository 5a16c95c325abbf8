import InfixLogic.Vocabulary

/- The postfix machine.

   Operands push a value, connectives replace the values on top by their result, and one value
   has to be left in the end. The machine is the same for every kind of value; what the values
   are and how they combine is given by an `Interpretation`. -/

namespace InfixLogic

/-- A kind of value for the machine, with errors of its own: what a truth value is, how values
combine, and how a fault is told. -/
structure Interpretation (ε α : Type) where
  fault : Fault → ε
  constant : Bool → α
  negate : α → α
  conjoin : α → α → Except ε α
  disjoin : α → α → Except ε α

/-- Truth values, which always combine. -/
def Interpretation.truth : Interpretation Fault Bool where
  fault f := f
  constant b := b
  negate a := !a
  conjoin a b := .ok (a && b)
  disjoin a b := .ok (a || b)

namespace Interpretation

variable {ε α : Type}

/-- A connective's effect on the stack, whose top comes first. The second operand is on top. -/
def apply (I : Interpretation ε α) (i : Nat) : Connective → List α → Except ε (List α)
  | .not, a :: stack => .ok (I.negate a :: stack)
  | .and, b :: a :: stack => do
    let c ← I.conjoin a b
    pure (c :: stack)
  | .or, b :: a :: stack => do
    let c ← I.disjoin a b
    pure (c :: stack)
  | c, _ => .error (I.fault (.starved c i))

end Interpretation

namespace Vocabulary

variable {ε α : Type}

/-- One token's effect on the stack. Constants stand for themselves, other operands for what
the environment gives them. -/
def step (v : Vocabulary) (I : Interpretation ε α) (env : Text → α) (i : Nat) (t : Token)
    (stack : List α) : Except ε (List α) :=
  match t.tag with
  | .operand =>
    if !v.defines t then .error (I.fault (.unknownOperand t.name i))
    else
      match t.value with
      | some b => .ok (I.constant b :: stack)
      | none => .ok (env t.name :: stack)
  | .operator =>
    match Connective.ofName? t.name with
    | some c => I.apply i c stack
    | none => .error (I.fault (.unknownOperator t i))
  | _ => .error (I.fault (.unknownOperator t i))

/-- Runs the items from a position on, each in its canonical form. -/
def runFrom (v : Vocabulary) (I : Interpretation ε α) (env : Text → α) (i : Nat)
    (stack : List α) : List Item → Except ε (List α)
  | [] => .ok stack
  | item :: rest =>
    match v.canonical item with
    | .error f => .error (I.fault f)
    | .ok t => do
      let stack ← v.step I env i t stack
      v.runFrom I env (i + 1) stack rest

def run (v : Vocabulary) (I : Interpretation ε α) (env : Text → α) (items : List Item) :
    Except ε α := do
  let stack ← v.runFrom I env 0 [] items
  match stack with
  | [a] => .ok a
  | _ => .error (I.fault (.leftover stack.length))

end Vocabulary

end InfixLogic
