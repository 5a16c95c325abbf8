import InfixLogic.Proofs.Matrix
import InfixLogic.Proofs.Simulation

/- Truth tables against direct evaluation.

   A table binds the used variables only, while an environment can bind any names to any values.
   Nothing else is looked up, so an evaluation ends as it does in the row that agrees with the
   environment on the used variables; as the assignment matrix lists every assignment once, there
   is one such row and no other (`filter_agrees_truthTable`). `truthTable_complete` puts this
   together with the order of the rows. -/

namespace InfixLogic

namespace Row

/-- Whether a row assigns what an environment does. -/
def agrees (env : Environment) (r : Row) : Bool := r.assignment.all fun p => env.truth p.1 == p.2

/-- A row shows how an evaluation ends: the value and no error, or the sentinel and the error. -/
inductive Carries : Row → Except Fault Bool → Prop where
  | value (assignment : List (Text × Bool)) (b : Bool) :
      Carries ⟨assignment, .truth b, none⟩ (.ok b)
  | fault (assignment : List (Text × Bool)) (f : Fault) :
      Carries ⟨assignment, .sentinel, some f.report⟩ (.error f)

end Row

/-- The truth values of names, bound to the names, are what the names stand for. -/
theorem Environment.truth_ofBools_zip {names : List Text} {name : Text} (h : name ∈ names)
    (value : Text → Bool) :
    (Environment.ofBools (names.zip (names.map value))).truth name = value name := by
  induction names with
  | nil => cases h
  | cons n names ih =>
    simp only [truth, ofBools, List.map_cons, List.zip_cons_cons, List.lookup_cons] at ih ⊢
    by_cases hname : name = n
    · subst hname
      simp [Value.truthy]
    · rw [beq_false_of_ne hname]
      exact ih ((List.mem_cons.mp h).resolve_left hname)

theorem all_zip_beq (value : Text → Bool) {names : List Text} {bs : List Bool}
    (h : bs.length = names.length) :
    ((names.zip bs).all fun p => value p.1 == p.2) = (bs == names.map value) := by
  induction names generalizing bs with
  | nil => simp [List.length_eq_zero_iff.mp h]
  | cons n names ih =>
    match bs, h with
    | b :: bs, h =>
      rw [List.zip_cons_cons, List.all_cons, ih (Nat.succ.inj h), Bool.beq_comm]
      rfl

/-- In the row of a number the first name takes the highest bit. -/
theorem zip_bits (names : List Text) (m : Nat) :
    names.zip (bits names.length m) =
      names.zipIdx.map fun p => (p.1, m.testBit (names.length - 1 - p.2)) := by
  rw [List.zipIdx_eq_zip_range', ← List.range_eq_range', bits, List.zip_map_right]
  rfl

namespace Vocabulary

variable {v : Vocabulary} {items : List Item}

theorem row_assignment (v : Vocabulary) (items : List Item) (assignment : List (Text × Bool)) :
    (v.row items assignment).assignment = assignment := by
  rw [row]
  split <;> rfl

theorem row_carries (v : Vocabulary) (items : List Item) (assignment : List (Text × Bool)) :
    (v.row items assignment).Carries (v.evaluate items (Environment.ofBools assignment).truth) := by
  rw [row]
  cases v.evaluate items (Environment.ofBools assignment).truth with
  | ok b => exact .value assignment b
  | error f => exact .fault assignment f

theorem truthTable_eq (h : v.usedVariables items ≠ []) :
    v.truthTable items = (assignmentMatrix (v.usedVariables items).length).map fun bs =>
      v.row items ((v.usedVariables items).zip bs) :=
  if_neg (by simpa using h)

theorem row_of_truthTable (h : v.usedVariables items ≠ []) {m : Nat}
    (hm : m < 2 ^ (v.usedVariables items).length) :
    (v.truthTable items)[m]? = some (v.row items
      ((v.usedVariables items).zip (bits (v.usedVariables items).length m))) := by
  rw [truthTable_eq h, List.getElem?_map, getElem?_assignmentMatrix hm]
  rfl

/-- The row that agrees with an environment is the one with its truth values. -/
theorem filter_agrees_truthTable (h : v.usedVariables items ≠ []) (env : Environment) :
    (v.truthTable items).filter (Row.agrees env) =
      [v.row items ((v.usedVariables items).zip ((v.usedVariables items).map env.truth))] := by
  have hagrees : ∀ bs ∈ assignmentMatrix (v.usedVariables items).length,
      Row.agrees env (v.row items ((v.usedVariables items).zip bs)) =
        (bs == (v.usedVariables items).map env.truth) := by
    intro bs hbs
    rw [Row.agrees, row_assignment]
    exact all_zip_beq env.truth (mem_assignmentMatrix.mp hbs)
  rw [truthTable_eq h, List.filter_map, Function.comp_def, List.filter_congr hagrees,
    filter_assignmentMatrix (List.length_map _)]
  rfl

theorem carries_of_agrees (v : Vocabulary) (items : List Item) (env : Environment) :
    (v.row items ((v.usedVariables items).zip ((v.usedVariables items).map env.truth))).Carries
      (v.evaluate items env.truth) := by
  rw [← evaluate_congr_used fun n hn => Environment.truth_ofBools_zip hn env.truth]
  exact v.row_carries items _

end Vocabulary

open Vocabulary (standard)

/-- The table of an expression with variables has the assignments to them in the order of binary
numbers, and for every environment one row that agrees with it, which shows how the expression
evaluates there. -/
theorem truthTable_complete {v : Vocabulary} {items : List Item} {names : List Text}
    (hnames : v.usedVariables items = names) (h : names ≠ []) :
    Ascending names ∧
      (v.truthTable items).length = 2 ^ names.length ∧
      (∀ m < 2 ^ names.length, ∃ r, (v.truthTable items)[m]? = some r ∧
        r.assignment = names.zipIdx.map fun p => (p.1, m.testBit (names.length - 1 - p.2))) ∧
      ∀ env : Environment, ∃ r, (v.truthTable items).filter (Row.agrees env) = [r] ∧
        r.Carries (v.evaluate items env.truth) := by
  subst hnames
  refine ⟨v.usedVariables_ascending items, ?_, fun m hm => ?_, fun env => ?_⟩
  · rw [Vocabulary.truthTable_eq h, List.length_map, length_assignmentMatrix]
  · refine ⟨_, Vocabulary.row_of_truthTable h hm, ?_⟩
    rw [Vocabulary.row_assignment, zip_bits]
  · exact ⟨_, Vocabulary.filter_agrees_truthTable h env, v.carries_of_agrees items env⟩

/-- The cases of `B && A` where A is not bound and TRUE is bound to false, and of an operator that
has the name of a variable. -/
theorem truthTable_complete_look_alike :
    (∃ r, (standard.truthTable (Token.items [.variable "B", standard.operator .and,
          .variable "A"])).filter (Row.agrees [("TRUE", .bool false), ("B", .int 2)]) = [r] ∧
        r.Carries (.ok false)) ∧
      ∃ r, (standard.truthTable (Token.items [.variable "B", .plain .operator "A"])).filter
          (Row.agrees [("A", .bool true)]) = [r] ∧
        r.Carries (.error (.unknownOperator (.plain .operator "A") 1)) := by
  have hand : standard.usedVariables (Token.items [.variable "B", standard.operator .and,
      .variable "A"]) = ["A", "B"] := by decide
  have hoperator : standard.usedVariables (Token.items [.variable "B", .plain .operator "A"]) =
      ["B"] := by decide
  exact ⟨(truthTable_complete hand (by decide)).2.2.2 _,
    (truthTable_complete hoperator (by decide)).2.2.2 _⟩

end InfixLogic
