import InfixLogic.Adjacency
import InfixLogic.Postfix.Conversion
import InfixLogic.Postfix.Machine
import InfixLogic.Environment

/- Evaluating an expression: checking its neighbours, converting it to postfix and running the
   postfix form. A fault of any stage is the answer, the first stage's first. -/

namespace InfixLogic

namespace Vocabulary

/-- The postfix form of an expression that passes the check. -/
def compile (v : Vocabulary) (items : List Item) : Except Fault (List Token) := do
  v.validate items
  v.toPostfix items

/-- The value of an expression where each free operand has the truth value `env` gives it. -/
def evaluate (v : Vocabulary) (items : List Item) (env : Text → Bool) : Except Fault Bool := do
  let ts ← v.compile items
  v.run .truth env (Token.items ts)

end Vocabulary

/-- The outcome of an evaluation as a value of its own. -/
inductive Outcome where
  | success (b : Bool)
  | failure (r : Report)
  deriving DecidableEq, Repr

namespace Outcome

def ofExcept : Except Fault Bool → Outcome
  | .ok b => .success b
  | .error f => .failure f.report

def isSuccess : Outcome → Bool
  | .success _ => true
  | .failure _ => false

/-- Whether two outcomes agree: on the value, or on the kind of failure. -/
def same : Outcome → Outcome → Bool
  | .success a, .success b => a == b
  | .failure r, .failure s => r.kind == s.kind
  | _, _ => false

def written : Outcome → Text
  | .success b => "EvaluationResult(value=" ++ (Value.bool b).written ++ ")"
  | .failure r => "EvaluationResult(error=" ++ r.kind.name ++ ")"

end Outcome

namespace Vocabulary

def outcome (v : Vocabulary) (items : List Item) (env : Environment) : Outcome :=
  .ofExcept (v.evaluate items env.truth)

end Vocabulary

end InfixLogic
