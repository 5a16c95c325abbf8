import InfixLogic.Proofs.Conversion

/- Conversions that keep the places of their tokens.

   Equal tokens cannot be told apart, so the conversion is followed on tokens that carry their places
   (`Placing`). `Placing.Moves` says what one of them can do whatever the precedences are: an operator
   lets any operators above the topmost marker go. `Conversion.Moves` is a case of this, so every run
   of the conversion is a run on places with the places left out (`exists_reads`).

   Such a run loses nothing, invents nothing (`Reads.held`) and keeps the order of the operands
   (`Reads.inOrder`). For the postfix form it follows that it is made of the canonical tokens of the
   expression (`toPostfix_perm`). -/

namespace InfixLogic

/-- A conversion under way on tokens with their places: the output in reverse, and the stack with its
top first. -/
structure Placing where
  output : List (Token × Nat)
  stack : List (Token × Nat)

namespace Placing

def start : Placing := ⟨[], []⟩

/-- The conversion without the places. -/
def conversion (p : Placing) : Conversion := ⟨p.output.map Prod.fst, p.stack.map Prod.fst⟩

/-- Operators that wait, with no marker among them. -/
def Unmarked (ops : List (Token × Nat)) : Prop := ∀ o ∈ ops, o.1.tag ≠ .leftParen

/-- What a token can do to a conversion, by its tag alone. -/
inductive Moves (a : Token × Nat) : Placing → Placing → Prop where
  | operand (tag : a.1.tag = .operand) (output stack : List (Token × Nat)) :
      Moves a ⟨output, stack⟩ ⟨a :: output, stack⟩
  | operator (tag : a.1.tag = .operator) (output ops rest : List (Token × Nat))
      (released : Unmarked ops) : Moves a ⟨output, ops ++ rest⟩ ⟨ops.reverse ++ output, a :: rest⟩
  | leftParen (tag : a.1.tag = .leftParen) (output stack : List (Token × Nat)) :
      Moves a ⟨output, stack⟩ ⟨output, a :: stack⟩
  | rightParen (tag : a.1.tag = .rightParen) (output ops rest : List (Token × Nat))
      (m : Token × Nat) (released : Unmarked ops) (marker : m.1.tag = .leftParen) :
      Moves a ⟨output, ops ++ m :: rest⟩ ⟨ops.reverse ++ output, rest⟩

/-- Takes in tokens one after another. -/
inductive Reads : Placing → List (Token × Nat) → Placing → Prop where
  | nil (p : Placing) : Reads p [] p
  | cons {p m q : Placing} {a : Token × Nat} {as : List (Token × Nat)} (move : Moves a p m)
      (rest : Reads m as q) : Reads p (a :: as) q

variable {p q : Placing} {a m : Token × Nat} {as bs : List (Token × Nat)}

/-! ## Runs of the conversion -/

theorem exists_moves {s : Conversion} (h : Conversion.Moves a.1 p.conversion s) :
    ∃ q, Moves a p q ∧ q.conversion = s := by
  obtain ⟨output, stack⟩ := p
  generalize hp : conversion ⟨output, stack⟩ = c at h
  cases h with
  | operand tag =>
    obtain ⟨rfl, rfl⟩ := Conversion.mk.inj hp
    exact ⟨_, .operand tag output stack, rfl⟩
  | operator tag _ ops rest released =>
    obtain ⟨rfl, hstack⟩ := Conversion.mk.inj hp
    obtain ⟨ops, rest, rfl, rfl, rfl⟩ := List.map_eq_append_iff.mp hstack
    have hops : Unmarked ops := fun o ho => by
      simp [Conversion.operator_of_yields (released o.1 (List.mem_map_of_mem ho))]
    exact ⟨_, .operator tag output ops rest hops, by simp [conversion]⟩
  | leftParen tag =>
    obtain ⟨rfl, rfl⟩ := Conversion.mk.inj hp
    exact ⟨_, .leftParen tag output stack, rfl⟩
  | rightParen tag _ ops rest m released marker =>
    obtain ⟨rfl, hstack⟩ := Conversion.mk.inj hp
    obtain ⟨ops, tail, rfl, rfl, htail⟩ := List.map_eq_append_iff.mp hstack
    obtain ⟨m, rest, rfl, rfl, rfl⟩ := List.map_eq_cons_iff.mp htail
    have hops : Unmarked ops := fun o ho => released o.1 (List.mem_map_of_mem ho)
    exact ⟨_, .rightParen tag output ops rest m hops marker, by simp [conversion]⟩

/-- A run of the conversion is one on places without the places. -/
theorem exists_reads {i : Nat} {s : Conversion}
    (h : Conversion.run i p.conversion (as.map Prod.fst) = .ok s) :
    ∃ q, Reads p as q ∧ q.conversion = s := by
  induction as generalizing i p with
  | nil => exact ⟨p, .nil p, Except.ok.inj h⟩
  | cons a as ih =>
    obtain ⟨c, hmove, hrun⟩ := Conversion.run_cons_ok h
    obtain ⟨m, hm, rfl⟩ := exists_moves hmove
    obtain ⟨q, hq, rfl⟩ := ih hrun
    exact ⟨q, .cons hm hq, rfl⟩

/-! ## What a run keeps -/

namespace Reads

theorem uncons (h : Reads p (a :: as) q) : ∃ m, Moves a p m ∧ Reads m as q := by
  cases h with
  | cons move rest => exact ⟨_, move, rest⟩

theorem split (h : Reads p (as ++ bs) q) : ∃ m, Reads p as m ∧ Reads m bs q := by
  induction as generalizing p with
  | nil => exact ⟨p, .nil p, h⟩
  | cons a as ih =>
    obtain ⟨m, hmove, hrest⟩ := h.uncons
    obtain ⟨n, has, hbs⟩ := ih hrest
    exact ⟨n, .cons hmove has, hbs⟩

/-- Nothing leaves the output again. -/
theorem output_suffix (h : Reads p as q) : p.output <:+ q.output := by
  induction h with
  | nil p => exact List.suffix_rfl
  | cons move _ ih =>
    refine .trans ?_ ih
    cases move with
    | operand => exact List.suffix_cons _ _
    | leftParen => exact List.suffix_rfl
    | operator | rightParen => exact List.suffix_append _ _

end Reads

/-- The tokens taken in that are still there: those of the output and the operators that wait. -/
def held (p : Placing) : List (Token × Nat) := p.output ++ p.stack.filter (·.1.tag != .leftParen)

theorem filter_of_unmarked {ops : List (Token × Nat)} (h : Unmarked ops) :
    ops.filter (·.1.tag != .leftParen) = ops :=
  List.filter_eq_self.mpr fun o ho => by simpa using h o ho

theorem Moves.held (h : Moves a p q) : q.held.Perm (p.held ++ [a].filter (!·.1.isGrouper)) := by
  apply List.perm_iff_count.mpr
  intro b
  cases h with
  | operand tag output stack =>
    have ha : [a].filter (!·.1.isGrouper) = [a] := by simp [Token.isGrouper, tag]
    simp only [Placing.held, ha, List.cons_append, List.count_append, List.count_cons,
      List.count_nil]
    omega
  | operator tag output ops rest released =>
    have ha : [a].filter (!·.1.isGrouper) = [a] := by simp [Token.isGrouper, tag]
    have hrest : (a :: rest).filter (·.1.tag != .leftParen) =
        a :: rest.filter (·.1.tag != .leftParen) := by simp [tag]
    simp only [Placing.held, ha, filter_of_unmarked released, hrest, List.filter_append,
      List.count_append, List.count_cons, List.count_nil, List.count_reverse]
    omega
  | leftParen tag output stack => simp [Placing.held, Token.isGrouper, tag]
  | rightParen tag output ops rest m released marker =>
    have ha : [a].filter (!·.1.isGrouper) = [] := by simp [Token.isGrouper, tag]
    have hrest : (m :: rest).filter (·.1.tag != .leftParen) =
        rest.filter (·.1.tag != .leftParen) := by simp [marker]
    simp only [Placing.held, ha, filter_of_unmarked released, hrest, List.filter_append,
      List.count_append, List.count_nil, List.count_reverse]
    omega

/-- Every token is kept, and none is added. -/
theorem Reads.held (h : Reads p as q) : q.held.Perm (p.held ++ as.filter (!·.1.isGrouper)) := by
  induction h with
  | nil p => simp
  | cons move _ ih =>
    refine ih.trans ((move.held.append_right _).trans ?_)
    rw [List.append_assoc, ← List.filter_append, List.singleton_append]

/-- No operand waits, and those of the output are the operands read, in reverse. -/
structure InOrder (read : List (Token × Nat)) (p : Placing) : Prop where
  stack : p.stack.filter (·.1.isOperand) = []
  output : p.output.filter (·.1.isOperand) = (read.filter (·.1.isOperand)).reverse

theorem Moves.inOrder (h : Moves a p q) (hp : InOrder bs p) : InOrder (bs ++ [a]) q := by
  obtain ⟨hstack, houtput⟩ := hp
  cases h with
  | operand tag output stack =>
    refine ⟨hstack, ?_⟩
    simpa [Token.isOperand, tag] using houtput
  | operator tag output ops rest released =>
    rw [List.filter_append, List.append_eq_nil_iff] at hstack
    refine ⟨by simpa [Token.isOperand, tag] using hstack.2, ?_⟩
    rw [List.filter_append, List.filter_reverse, hstack.1, List.filter_append, houtput]
    simp [Token.isOperand, tag]
  | leftParen tag output stack =>
    refine ⟨by simpa [Token.isOperand, tag] using hstack, ?_⟩
    rw [List.filter_append, houtput]
    simp [Token.isOperand, tag]
  | rightParen tag output ops rest m released marker =>
    rw [List.filter_append, List.append_eq_nil_iff] at hstack
    refine ⟨(List.filter_cons_of_neg (by simp [Token.isOperand, marker])).symm.trans hstack.2, ?_⟩
    rw [List.filter_append, List.filter_reverse, hstack.1, List.filter_append, houtput]
    simp [Token.isOperand, tag]

theorem Reads.inOrder (h : Reads p as q) (hp : InOrder bs p) : InOrder (bs ++ as) q := by
  induction h generalizing bs with
  | nil p => simpa using hp
  | cons move _ ih => simpa using ih (move.inOrder hp)

end Placing

/-! ## Postfix forms -/

open Placing (Reads Unmarked filter_of_unmarked)

namespace Vocabulary

variable {v : Vocabulary} {ts us : List Token}

/-- A postfix form comes from a run on the tokens with their places that leaves no marker behind. -/
theorem exists_reads_of_toPostfix (h : v.toPostfix (Token.items ts) = .ok us) :
    ∃ q, Reads .start (ts.map v.canonicalToken).zipIdx q ∧ Unmarked q.stack ∧
      us = (q.output.reverse ++ q.stack).map Prod.fst := by
  obtain ⟨s, hrun, hno, rfl⟩ := exists_run_of_toPostfix h
  rw [← List.zipIdx_map_fst 0 (ts.map v.canonicalToken)] at hrun
  obtain ⟨q, hq, rfl⟩ := Placing.exists_reads (p := .start) hrun
  refine ⟨q, hq, fun o ho => hno o.1 (List.mem_map_of_mem ho), ?_⟩
  simp [Placing.conversion]

/-- The tokens of a run that leaves no marker behind are all there. -/
theorem perm_of_reads {q : Placing} {as : List (Token × Nat)} (h : Reads .start as q)
    (hno : Unmarked q.stack) :
    (q.output.reverse ++ q.stack).Perm (as.filter (!·.1.isGrouper)) := by
  have hheld := h.held
  rw [Placing.held, filter_of_unmarked hno] at hheld
  exact ((List.reverse_perm _).append_right _).trans hheld

/-- The postfix form is made of the canonical tokens of the expression, parentheses apart. -/
theorem toPostfix_perm (h : v.toPostfix (Token.items ts) = .ok us) :
    us.Perm ((ts.map v.canonicalToken).filter (!·.isGrouper)) := by
  obtain ⟨q, hq, hno, rfl⟩ := exists_reads_of_toPostfix h
  have hperm := (perm_of_reads hq hno).map Prod.fst
  rwa [← Function.comp_def (fun t : Token => !t.isGrouper) Prod.fst, ← List.filter_map,
    List.zipIdx_map_fst] at hperm

end Vocabulary

end InfixLogic
