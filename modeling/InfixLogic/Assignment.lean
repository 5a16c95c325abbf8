import InfixLogic.Text.Basic
import InfixLogic.Text.Blank
import InfixLogic.Text.CaseMap

/- Assignments as they are typed: a name, an equals sign and a word for a truth value.

   Blanks at the ends of both sides and the case of both sides do not matter. The text splits
   at its first equals sign. Assignments are carried out from left to right, and the first one
   that is wrong is the fault. -/

namespace InfixLogic

/-- What is wrong with an assignment: it is none to one of the names, or the word for its value
is unknown. -/
inductive AssignmentFault where
  | notAssignment (item : Text) (names : List Text)
  | notTruth (word name : Text)
  deriving DecidableEq, Repr

def AssignmentFault.message : AssignmentFault → Text
  | .notAssignment item names =>
    "Invalid assignment '" ++ item ++ "', expected one of " ++ Text.join ", " names ++
      "=true|false"
  | .notTruth word name => "Invalid boolean value '" ++ word ++ "' for " ++ name

namespace Assignment

def trueWords : List Text := ["1", "true", "t", "yes", "on"]

def falseWords : List Text := ["0", "false", "f", "no", "off"]

def truth? (word : Text) : Option Bool :=
  if trueWords.contains word then some true
  else if falseWords.contains word then some false
  else none

/-- The name and the truth value of an assignment to one of some names. -/
def ofText (names : List Text) (item : Text) : Except AssignmentFault (Text × Bool) :=
  let name := Text.upper (Text.trim (item.takeWhile (· != .char '=')))
  match item.dropWhile (· != .char '=') with
  | [] => .error (.notAssignment item names)
  | _ :: value =>
    if !names.contains name then .error (.notAssignment item names)
    else
      let word := Text.lower (Text.trim value)
      match truth? word with
      | some b => .ok (name, b)
      | none => .error (.notTruth word name)

def set (name : Text) (b : Bool) (inputs : List (Text × Bool)) : List (Text × Bool) :=
  inputs.map fun p => if p.1 = name then (name, b) else p

def update (inputs : List (Text × Bool)) : List Text → Except AssignmentFault (List (Text × Bool))
  | [] => .ok inputs
  | item :: rest => do
    let (name, b) ← ofText (inputs.map (·.1)) item
    update (set name b inputs) rest

/-- The truth values that assignments leave some names with, all of them false at first. -/
def parse (names items : List Text) : Except AssignmentFault (List (Text × Bool)) :=
  update (names.map fun n => (n, false)) items

end Assignment

end InfixLogic
