import InfixLogic.Evaluation
import InfixLogic.TruthTable.Matrix

/- Truth tables: one row for each assignment to the variables that an expression uses.

   A row carries the value of the expression, or the sentinel together with the fault if there
   is no value. An expression without variables has no rows. -/

namespace InfixLogic

/-- A cell of a table: a truth value, or a text in its place. -/
inductive Cell where
  | truth (b : Bool)
  | text (t : Text)
  deriving DecidableEq, Repr

namespace Cell

/-- The sentinel, which stands where there is no value. -/
def sentinel : Cell := .text "—"

/-- Whether a cell counts as true: a text does unless it is empty. -/
def truthy : Cell → Bool
  | .truth b => b
  | .text t => !t.isEmpty

def written : Cell → Text
  | .truth b => (Value.bool b).written
  | .text t => t.quoted

end Cell

structure Row where
  assignment : List (Text × Bool)
  result : Cell
  error : Option Report
  deriving DecidableEq, Repr

namespace Row

def isOk (r : Row) : Bool := r.error.isNone

/-- Whether two assignments bind the same names to the same truth values, in any order. -/
def sameAssignment (a b : List (Text × Bool)) : Bool :=
  a.length == b.length && a.all fun p => b.lookup p.1 == some p.2

/-- Whether two rows agree in assignment and result. -/
def same (a b : Row) : Bool := sameAssignment a.assignment b.assignment && a.result == b.result

def written (r : Row) : Text :=
  let assignment := Value.object (r.assignment.map fun p => (p.1, .bool p.2))
  "TruthTableRow(" ++ assignment.written ++ ", result=" ++ r.result.written ++ ")"

end Row

namespace Vocabulary

/-- Inserts a text into an ascending list without repeats. -/
def insertName (name : Text) : List Text → List Text
  | [] => [name]
  | n :: rest =>
    if name = n then n :: rest
    else if name.map CodePoint.value < n.map CodePoint.value then name :: n :: rest
    else n :: insertName name rest

/-- Names in ascending order, each once. -/
def sortedNames (names : List Text) : List Text := names.foldr insertName []

/-- The name of the free variable that an item is. -/
def freeName? (v : Vocabulary) : Item → Option Text
  | .token t => if v.isFree t then some t.name else none
  | .foreign _ => none

/-- The free variables of an expression in ascending order, each once. -/
def usedVariables (v : Vocabulary) (items : List Item) : List Text :=
  sortedNames (items.filterMap v.freeName?)

def row (v : Vocabulary) (items : List Item) (assignment : List (Text × Bool)) : Row :=
  match v.evaluate items (Environment.ofBools assignment).truth with
  | .ok b => ⟨assignment, .truth b, none⟩
  | .error f => ⟨assignment, .sentinel, some f.report⟩

def truthTable (v : Vocabulary) (items : List Item) : List Row :=
  let names := v.usedVariables items
  if names.isEmpty then []
  else (assignmentMatrix names.length).map fun bs => v.row items (names.zip bs)

end Vocabulary

structure Counts where
  trues : Nat
  falses : Nat
  errors : Nat
  deriving DecidableEq, Repr

def Counts.ofRows (rows : List Row) : Counts where
  trues := rows.countP fun r => r.isOk && r.result.truthy
  falses := rows.countP fun r => r.isOk && !r.result.truthy
  errors := rows.countP fun r => !r.isOk

end InfixLogic
