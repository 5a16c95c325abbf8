import InfixLogic.Column
import InfixLogic.TruthTable.Rows

/- Questions about all assignments at once.

   An expression is checked and converted a single time, and its postfix form is run on the
   columns of the assignment matrix. Expressions that have no value have no answer. -/

namespace InfixLogic

namespace Vocabulary

/-- The columns of the assignment matrix by name; of a repeated name the last one counts. -/
def matrixColumns (names : List Text) : List (Text × Column) :=
  let matrix := assignmentMatrix names.length
  let columns := names.zipIdx.map fun p => (p.1, Column.rows (matrix.map fun r => r.getD p.2 false))
  columns.reverse

/-- The value of an expression for every assignment to some names, in the order of the
assignment matrix. -/
def evaluateColumns (v : Vocabulary) (items : List Item) (names : List Text) :
    Except Failure (List Bool) := do
  let ts ← (v.compile items).mapError .fault
  let column ← v.run .column (Column.lookup (matrixColumns names)) (Token.items ts)
  pure (column.expand (assignmentMatrix names.length).length)

/-- Whether an expression is true under every assignment. -/
def isTautology (v : Vocabulary) (items : List Item) : Except Failure Bool := do
  let column ← v.evaluateColumns items (v.usedVariables items)
  pure (column.all (·))

/-- Whether an expression is true under some assignment. -/
def isSatisfiable (v : Vocabulary) (items : List Item) : Except Failure Bool := do
  let column ← v.evaluateColumns items (v.usedVariables items)
  pure (column.any (·))

/-- Whether two expressions have the same value under every assignment. -/
def areEquivalent (v : Vocabulary) (left right : List Item) : Except Failure Bool := do
  let names := sortedNames (v.usedVariables left ++ v.usedVariables right)
  let a ← v.evaluateColumns left names
  let b ← v.evaluateColumns right names
  pure (a == b)

end Vocabulary

end InfixLogic
