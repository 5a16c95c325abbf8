import InfixLogic.Postfix.Machine

/- Columns: one truth value for all rows, or one for each row.

   Columns combine row by row. A single value, and a column of one row, goes with every row of
   the other; columns of other lengths combine only if the lengths are equal. -/

namespace InfixLogic

inductive Column where
  | constant (b : Bool)
  | rows (bs : List Bool)
  deriving DecidableEq, Repr

namespace Column

/-- The column of a list of values, by their truthiness. -/
def ofValues (vs : List Value) : Column := .rows (vs.map Value.truthy)

def negate : Column → Column
  | .constant b => .constant !b
  | .rows bs => .rows (bs.map (!·))

def zipRows (f : Bool → Bool → Bool) (as bs : List Bool) : Except Failure (List Bool) :=
  if as.length = bs.length then .ok (as.zipWith f bs)
  else
    match as, bs with
    | [a], _ => .ok (bs.map (f a))
    | _, [b] => .ok (as.map (f · b))
    | _, _ => .error .unequalLengths

def combine (f : Bool → Bool → Bool) : Column → Column → Except Failure Column
  | .constant a, .constant b => .ok (.constant (f a b))
  | .constant a, .rows bs => .ok (.rows (bs.map (f a)))
  | .rows as, .constant b => .ok (.rows (as.map (f · b)))
  | .rows as, .rows bs => (zipRows f as bs).map .rows

/-- A column's value for each of `n` rows. -/
def expand (n : Nat) : Column → List Bool
  | .constant b => List.replicate n b
  | .rows bs => bs

end Column

/-- Columns as values of the postfix machine. -/
def Interpretation.column : Interpretation Failure Column where
  fault := .fault
  constant := .constant
  negate := .negate
  conjoin := Column.combine (· && ·)
  disjoin := Column.combine (· || ·)

/-- A connective applied to columns, which have to be as many as it takes. -/
def Connective.apply : Connective → List Column → Except Failure Column
  | .not, [a] => .ok a.negate
  | .and, [a, b] => a.combine (· && ·) b
  | .or, [a, b] => a.combine (· || ·) b
  | _, _ => .error .wrongArity

/-- What the names of an environment of columns stand for; a name that is not bound is false. -/
def Column.lookup (bindings : List (Text × Column)) (name : Text) : Column :=
  (List.lookup name bindings).getD (.constant false)

end InfixLogic
