/- The assignments of truth values to `n` variables, in order.

   Row `m` is the number `m` in binary, the first variable taking the highest bit, so that the
   first row is all false and the last all true. -/

namespace InfixLogic

/-- The `n` lowest bits of a number, the highest first. -/
def bits (n m : Nat) : List Bool := (List.range n).map fun i => m.testBit (n - 1 - i)

/-- All rows of `n` truth values. -/
def assignmentMatrix (n : Nat) : List (List Bool) := (List.range (Nat.pow 2 n)).map (bits n)

end InfixLogic
