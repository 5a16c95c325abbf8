import InfixLogic.Vocabulary

/- Expressions as trees.

   A tree is what an expression means: `eval` is its truth value, and `postorder` lists its
   tokens with every connective behind its operands. Parentheses leave no trace in a tree. -/

namespace InfixLogic

inductive Expr where
  | operand (t : Token)
  | not (e : Expr)
  | and (e f : Expr)
  | or (e f : Expr)
  deriving DecidableEq, Repr

namespace Expr

/-- The truth value of a tree. Constants stand for themselves, other operands for what `env`
gives their name. -/
def eval (env : Text → Bool) : Expr → Bool
  | .operand t => t.value.getD (env t.name)
  | .not e => !e.eval env
  | .and e f => e.eval env && f.eval env
  | .or e f => e.eval env || f.eval env

/-- The tokens of a tree, operands before their connective. -/
def postorder (v : Vocabulary) : Expr → List Token
  | .operand t => [t]
  | .not e => e.postorder v ++ [v.operator .not]
  | .and e f => e.postorder v ++ f.postorder v ++ [v.operator .and]
  | .or e f => e.postorder v ++ f.postorder v ++ [v.operator .or]

def operands : Expr → List Token
  | .operand t => [t]
  | .not e => e.operands
  | .and e f | .or e f => e.operands ++ f.operands

end Expr

end InfixLogic
