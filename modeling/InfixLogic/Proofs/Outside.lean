import InfixLogic.Proofs.Failure
import InfixLogic.Proofs.Foreign
import InfixLogic.Proofs.Adjacency

/- The vocabulary is closed.

   `Item.Outside` collects what is no part of the language: values that are no tokens, operands
   whose names no operand of the vocabulary has, and operators named after no connective. The stages
   stop them in different places. The scan refuses the first two, but an operator of a foreign name
   passes it by its own arity and moves on the stack of the conversion by its own precedence. It is
   not lost there, as the postfix form is a permutation of the expression, and the machine has no
   step for it, without which it cannot finish (`namesConnectives_of_evaluate`).

   So an expression with a value holds no such item (`not_outside_of_evaluate`). Whether there is a
   value does not depend on the environment, and columns and tables fail where evaluations do
   (`outside_fails`). -/

namespace InfixLogic

/-- An item that is no part of the language. Only the tag and the name of a token count: no metadata
makes up for them. -/
inductive Item.Outside (v : Vocabulary) : Item → Prop where
  | value (w : Value) : Outside v (.foreign w)
  | operand {t : Token} (tag : t.tag = .operand) (name : ∀ d ∈ v.operands, t.name ≠ d.name) :
      Outside v (.token t)
  | operator {t : Token} (tag : t.tag = .operator) (name : ∀ c : Connective, t.name ≠ c.name) :
      Outside v (.token t)

namespace Vocabulary

variable {v : Vocabulary} {items : List Item}

/-- An operand that the vocabulary has shares its name with one of the operands. -/
theorem exists_operand_of_defines {t : Token} (htag : t.tag = .operand)
    (hdef : v.defines t = true) : ∃ d ∈ v.operands, t.name = d.name := by
  have hmem := canonicalToken_mem hdef
  have hop := mem_operands_of_tag hmem ((canonicalToken_tag v t).trans htag)
  exact ⟨v.canonicalToken t, hop, (canonicalToken_name v t).symm⟩

/-- The operands of an expression that passes the scan are in the vocabulary. -/
theorem defines_of_validate {ts : List Token} (h : v.validate (Token.items ts) = .ok ())
    {t : Token} (ht : t ∈ ts) (htag : t.tag = .operand) : v.defines t = true := by
  have hknown := (validate_ok_iff.mp h).2.1 (v.canonicalToken t) (List.mem_map_of_mem ht)
  simpa [Token.isOperand, htag] using hknown

/-- An expression with a value holds nothing from outside of the language. -/
theorem not_outside_of_evaluate {env : Text → Bool} {b : Bool} (h : v.evaluate items env = .ok b) :
    ∀ item ∈ items, ¬ item.Outside v := by
  have hnames := namesConnectives_of_evaluate h
  obtain ⟨us, hcompile, -⟩ := bind_ok.mp h
  obtain ⟨ts, rfl⟩ := tokens_of_compile hcompile
  obtain ⟨⟨⟩, hscan, -⟩ := bind_ok.mp hcompile
  intro item hmem hout
  obtain ⟨u, hu, rfl⟩ := List.mem_map.mp hmem
  cases hout with
  | operand tag name =>
    obtain ⟨d, hd, hname⟩ := exists_operand_of_defines tag (defines_of_validate hscan hu tag)
    exact name d hd hname
  | operator tag name =>
    obtain ⟨c, hname⟩ := hnames u hmem tag
    exact name c hname

/-- An expression with an item from outside of the language fails, in every environment in the same
way. -/
theorem evaluate_of_outside {item : Item} (hmem : item ∈ items) (h : item.Outside v) :
    ∃ f, ∀ env, v.evaluate items env = .error f := by
  rcases v.denotes_or_fails items with ⟨value, hvalue⟩ | hfails
  · exact absurd h (not_outside_of_evaluate (hvalue fun _ => false) item hmem)
  · exact hfails

theorem row_of_fault {f : Fault} (h : ∀ env, v.evaluate items env = .error f)
    (assignment : List (Text × Bool)) :
    v.row items assignment = ⟨assignment, .sentinel, some f.report⟩ := by
  rw [row, h]

end Vocabulary

open Vocabulary (standard)

/-- With an item from outside of the language, wherever it stands and whatever metadata it has, an
expression has no value: one fault is its outcome in every environment, the answer for the columns
of any names, and the error of every row of its truth table. -/
theorem outside_fails {v : Vocabulary} {items : List Item} {item : Item} (hmem : item ∈ items)
    (h : item.Outside v) :
    ∃ f : Fault, (∀ env : Environment, v.outcome items env = .failure f.report) ∧
      (∀ names, v.evaluateColumns items names = .error (.fault f)) ∧
        ∀ r ∈ v.truthTable items, r.result = .sentinel ∧ r.error = some f.report := by
  obtain ⟨f, hf⟩ := Vocabulary.evaluate_of_outside hmem h
  refine ⟨f, fun env => ?_, fun names => ?_, fun r hr => ?_⟩
  · rw [Vocabulary.outcome, hf]
    rfl
  · exact Vocabulary.evaluateColumns_of_fault (hf (Environment.truth [])) names
  · obtain ⟨assignment, rfl⟩ := Vocabulary.exists_of_mem_truthTable hr
    rw [Vocabulary.row_of_fault hf]
    exact ⟨rfl, rfl⟩

/-- The cases of an operator `XOR` between A and B that is forged to look like AND, and of an
operand `D` with a value of its own in an environment that binds it. -/
theorem outside_fails_forged :
    (∃ f : Fault, ∀ r ∈ standard.truthTable (Token.items [.variable "A",
        ⟨.operator, "XOR", some "&&", none, 2, 2, false⟩, .variable "B"]),
      r.result = .sentinel ∧ r.error = some f.report) ∧
    ∃ f : Fault, standard.outcome (Token.items [⟨.operand, "D", some "A", some true, 0, 0, false⟩])
      [("D", .bool true)] = .failure f.report := by
  have hxor : (Item.token ⟨.operator, "XOR", some "&&", none, 2, 2, false⟩).Outside standard :=
    .operator rfl fun c => by cases c <;> decide
  have hoperand :
      (Item.token ⟨.operand, "D", some "A", some true, 0, 0, false⟩).Outside standard :=
    .operand rfl (by decide)
  obtain ⟨f, -, -, hrows⟩ := outside_fails (List.mem_cons_of_mem (.token (.variable "A"))
    (List.mem_cons_self (l := [.token (.variable "B")]))) hxor
  obtain ⟨g, houtcome, -⟩ := outside_fails (List.mem_singleton_self _) hoperand
  exact ⟨⟨f, hrows⟩, g, houtcome _⟩

end InfixLogic
