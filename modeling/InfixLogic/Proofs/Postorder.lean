import InfixLogic.Proofs.Grouping

/- From a derivation to its postfix form and its value.

   In a conventional vocabulary nothing is regrouped, so the postfix form of a derived expression is
   the postorder of its tree (`Derives.toPostfix`). The machine, fed the postorder of a tree, pushes
   the value of the tree and touches nothing else (`runFrom_postorder`). A regrouped tree has the
   same value, so this is the value of the expression in any ranked vocabulary
   (`Derives.evaluate_of_waits`). -/

namespace InfixLogic

theorem NegationsWait.of_conventional {v : Vocabulary} (hv : v.Conventional) (ts : List Token) :
    NegationsWait v ts :=
  fun _ => hv.not_right

/-- The postfix form of a derived expression is the postorder of its tree. -/
theorem Derives.toPostfix {v : Vocabulary} (hv : v.Conventional) {s : Stratum} {ts : List Token}
    {e : Expr} (h : Derives v s ts e) :
    v.toPostfix (Token.items ts) = .ok (e.postorder v) := by
  obtain ⟨e', hr, hpost⟩ := h.toPostfix_regroups hv.toRanked (.of_conventional hv ts)
  rwa [hr.eq_of_left hv.and_left hv.or_left] at hpost

/-! ## Evaluation -/

namespace Vocabulary

variable {v : Vocabulary}

theorem step_operator_truth (v : Vocabulary) (c : Connective) (env : Text → Bool) (i : Nat)
    (stack : List Bool) :
    v.step .truth env i (v.operator c) stack = Interpretation.truth.apply i c stack := by
  simp [step]

theorem step_operand_truth (hv : v.Ranked) {t : Token} (h : t ∈ v.operands) (env : Text → Bool)
    (i : Nat) (stack : List Bool) :
    v.step .truth env i t stack = .ok (t.value.getD (env t.name) :: stack) := by
  simp only [step, operand_tag h, hv.defines_of_mem (operand_mem_tokens h)]
  cases t.value <;> rfl

theorem runFrom_cons_mem (hv : v.Ranked) {ε α : Type} (I : Interpretation ε α) (env : Text → α)
    (i : Nat) (stack : List α) {t : Token} (h : t ∈ v.tokens) (items : List Item) :
    v.runFrom I env i stack (.token t :: items) =
      (v.step I env i t stack).bind fun stack => v.runFrom I env (i + 1) stack items := by
  rw [runFrom, canonical, hv.canonicalToken_of_mem h]
  rfl

/-- The postorder of a tree pushes the value of the tree, whatever is on the stack and whatever
comes behind it. -/
theorem runFrom_postorder (hv : v.Ranked) (env : Text → Bool) {e : Expr}
    (he : ∀ t ∈ e.operands, t ∈ v.operands) (i : Nat) (stack : List Bool) (items : List Item) :
    v.runFrom .truth env i stack (Token.items (e.postorder v) ++ items) =
      v.runFrom .truth env (i + (e.postorder v).length) (e.eval env :: stack) items := by
  -- The items behind the postorder are part of the statement: they are what the second operand and
  -- the connective are to the first operand.
  induction e generalizing i stack items with
  | operand t =>
    have ht : t ∈ v.operands := he t (by simp [Expr.operands])
    refine (runFrom_cons_mem hv _ env i stack (operand_mem_tokens ht) items).trans ?_
    rw [step_operand_truth hv ht]
    rfl
  | not e ih =>
    simp only [Expr.postorder, Token.items, List.map_append, List.append_assoc] at ih ⊢
    rw [ih he]
    refine (runFrom_cons_mem hv _ env _ _ (v.operator_mem_tokens .not) items).trans ?_
    rw [step_operator_truth, List.length_append, ← Nat.add_assoc]
    rfl
  | and e f ihe ihf | or e f ihe ihf =>
    simp only [Expr.operands, List.mem_append] at he
    simp only [Expr.postorder, Token.items, List.map_append, List.append_assoc] at ihe ihf ⊢
    rw [ihe fun t ht => he t (.inl ht), ihf fun t ht => he t (.inr ht)]
    refine (runFrom_cons_mem hv _ env _ _ (v.operator_mem_tokens _) items).trans ?_
    rw [step_operator_truth, List.length_append, List.length_append, ← Nat.add_assoc,
      ← Nat.add_assoc]
    rfl

theorem run_postorder (hv : v.Ranked) (env : Text → Bool) {e : Expr}
    (he : ∀ t ∈ e.operands, t ∈ v.operands) :
    v.run .truth env (Token.items (e.postorder v)) = .ok (e.eval env) := by
  have h := runFrom_postorder hv env he 0 [] []
  rw [List.append_nil] at h
  rw [run, h]
  rfl

end Vocabulary

/-- A derived expression passes the scan, so that its value is what its postfix form runs to. -/
theorem Derives.evaluate_of_toPostfix {v : Vocabulary} (hv : v.Ranked) {s : Stratum}
    {ts us : List Token} {e : Expr} (h : Derives v s ts e)
    (hpost : v.toPostfix (Token.items ts) = .ok us) (env : Text → Bool) :
    v.evaluate (Token.items ts) env = v.run .truth env (Token.items us) := by
  rw [Vocabulary.evaluate, Vocabulary.compile, h.validate hv]
  show (v.toPostfix (Token.items ts)).bind _ = _
  rw [hpost]
  rfl

/-- The value of a derived expression is that of its tree, if every NOT waits for the NOT behind
it. -/
theorem Derives.evaluate_of_waits {v : Vocabulary} (hv : v.Ranked) {s : Stratum} {ts : List Token}
    {e : Expr} (h : Derives v s ts e) (hn : NegationsWait v ts) (env : Text → Bool) :
    v.evaluate (Token.items ts) env = .ok (e.eval env) := by
  obtain ⟨e', hr, hpost⟩ := h.toPostfix_regroups hv hn
  have hoperands : ∀ t ∈ e'.operands, t ∈ v.operands := hr.operands_eq ▸ h.mem_operands
  rw [h.evaluate_of_toPostfix hv hpost, ← hr.eval_eq env]
  exact v.run_postorder hv env hoperands

/-- The value of a derived expression is that of its tree. -/
theorem Derives.evaluate {v : Vocabulary} (hv : v.Conventional) {s : Stratum} {ts : List Token}
    {e : Expr} (h : Derives v s ts e) (env : Text → Bool) :
    v.evaluate (Token.items ts) env = .ok (e.eval env) :=
  h.evaluate_of_waits hv.toRanked (.of_conventional hv ts) env

end InfixLogic
