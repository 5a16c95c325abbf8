import InfixLogic.Proofs.Balance
import InfixLogic.Proofs.Placing

/- The height of the machine's stack.

   An operand adds a value, a binary connective takes one away, and nothing else counts: the
   height after a run is the height before it and the weight of the tokens. The conversion only
   moves tokens, so the weight of an expression is that of its postfix form, and an expression
   that has a value weighs one (`weights_of_run`, `weights_of_toPostfix`).

   `Ends` lists the ways in which the evaluation of tokens of the vocabulary can end, with what
   each says of the tokens, and `ends_evaluate` says that there is no other. -/

namespace InfixLogic

/-- What a token adds to the height of the stack. -/
def Token.weight (t : Token) : Int :=
  match t.tag with
  | .operand => 1
  | .operator =>
    match Connective.ofName? t.name with
    | some c => 1 - c.arity
    | none => 0
  | _ => 0

/-- The weight of a list of tokens. -/
def Token.weights : List Token → Int
  | [] => 0
  | t :: ts => t.weight + weights ts

open Token (weight weights)

@[simp] theorem weights_nil : weights [] = 0 := rfl

@[simp] theorem weights_cons (t : Token) (ts : List Token) :
    weights (t :: ts) = t.weight + weights ts :=
  rfl

theorem weight_of_isGrouper {t : Token} (h : t.isGrouper = true) : t.weight = 0 := by
  cases htag : t.tag <;> simp_all [Token.isGrouper, weight]

@[simp] theorem weight_leftParen : Token.leftParen.weight = 0 := rfl

@[simp] theorem weight_rightParen : Token.rightParen.weight = 0 := rfl

theorem weight_operand {v : Vocabulary} {t : Token} (h : t ∈ v.operands) : t.weight = 1 := by
  simp [weight, Vocabulary.operand_tag h]

@[simp] theorem weight_operator (v : Vocabulary) (c : Connective) :
    (v.operator c).weight = 1 - c.arity := by
  simp [weight]

/-- Parentheses weigh nothing. -/
theorem weights_filter (ts : List Token) : weights (ts.filter (!·.isGrouper)) = weights ts := by
  induction ts with
  | nil => rfl
  | cons t ts ih =>
    cases ht : t.isGrouper with
    | false => simp [ht, ih]
    | true => simp [ht, ih, weight_of_isGrouper ht]

theorem weights_perm {ts us : List Token} (h : ts.Perm us) : weights ts = weights us := by
  induction h with
  | nil => rfl
  | cons t _ ih => rw [weights_cons, weights_cons, ih]
  | swap t u ts =>
    simp only [weights_cons]
    omega
  | trans _ _ ih ih' => exact ih.trans ih'

theorem Interpretation.length_apply {ε α : Type} {I : Interpretation ε α} {i : Nat}
    {c : Connective} {stack stack' : List α} (h : I.apply i c stack = .ok stack') :
    (stack'.length : Int) = stack.length + (1 - c.arity) := by
  match c, stack, h with
  | .not, a :: stack, h =>
    obtain rfl := Except.ok.inj h
    simp [Connective.arity]
  | .and, b :: a :: stack, h | .or, b :: a :: stack, h =>
    obtain ⟨c, -, hc⟩ := bind_ok.mp h
    obtain rfl := Except.ok.inj hc
    simp only [Connective.arity, List.length_cons]
    omega

namespace Vocabulary

variable {v : Vocabulary} {ε α : Type} {I : Interpretation ε α} {env : Text → α}

theorem weight_canonicalToken (v : Vocabulary) (t : Token) :
    (v.canonicalToken t).weight = t.weight := by
  simp [weight]

theorem weights_map_canonicalToken (v : Vocabulary) (ts : List Token) :
    weights (ts.map v.canonicalToken) = weights ts := by
  induction ts with
  | nil => rfl
  | cons t ts ih => simp [weight_canonicalToken, ih]

theorem length_step {i : Nat} {t : Token} {stack stack' : List α}
    (h : v.step I env i t stack = .ok stack') :
    (stack'.length : Int) = stack.length + t.weight := by
  cases htag : t.tag with
  | operand =>
    simp only [step, htag] at h
    split at h
    · cases h
    · split at h <;> (obtain rfl := Except.ok.inj h; simp [weight, htag])
  | operator =>
    simp only [step, htag] at h
    split at h
    · next c hc => simpa [weight, htag, hc] using Interpretation.length_apply h
    · cases h
  | leftParen | rightParen => simp [step, htag] at h

/-- A run changes the height by the weight of its tokens. -/
theorem length_runFrom {i : Nat} {ts : List Token} {stack stack' : List α}
    (h : v.runFrom I env i stack (Token.items ts) = .ok stack') :
    (stack'.length : Int) = stack.length + weights ts := by
  induction ts generalizing i stack with
  | nil =>
    obtain rfl := Except.ok.inj h
    simp
  | cons t ts ih =>
    obtain ⟨m, hs, hrun⟩ := bind_ok.mp h
    have hstep := length_step hs
    have hrest := ih hrun
    rw [weight_canonicalToken] at hstep
    rw [weights_cons]
    omega

/-- A run has a value if it is all that the run leaves on the stack. -/
theorem run_ok_iff {items : List Item} {a : α} :
    v.run I env items = .ok a ↔ v.runFrom I env 0 [] items = .ok [a] := by
  rw [run, bind_ok]
  refine ⟨?_, fun hrun => ⟨[a], hrun, rfl⟩⟩
  rintro ⟨stack, hrun, hleft⟩
  cases stack with
  | nil => cases hleft
  | cons b stack =>
    cases stack with
    | nil => exact Except.ok.inj hleft ▸ hrun
    | cons c stack => cases hleft

theorem weights_of_run {ts : List Token} {a : α} (h : v.run I env (Token.items ts) = .ok a) :
    weights ts = 1 := by
  simpa using (length_runFrom (run_ok_iff.mp h)).symm

/-- Tokens that have a postfix form weigh as much as it. -/
theorem weights_of_toPostfix {ts us : List Token} (h : v.toPostfix (Token.items ts) = .ok us) :
    weights us = weights ts := by
  rw [weights_perm (toPostfix_perm h), weights_filter, weights_map_canonicalToken]

/-! ## Faults of the machine -/

theorem starved_of_apply {i : Nat} {c : Connective} {stack : List Bool} {f : Fault}
    (h : Interpretation.truth.apply i c stack = .error f) :
    f = .starved c i ∧ (stack.length : Int) < c.arity := by
  match c, stack, h with
  | .not, [], h | .and, [], h | .and, [_], h | .or, [], h | .or, [_], h =>
    exact ⟨(Except.error.inj h).symm, by simp [Connective.arity]⟩

theorem starved_of_step (hv : v.Ranked) {env : Text → Bool} {i : Nat} {t : Token}
    {stack : List Bool} {f : Fault} (ht : t ∈ v.tokens) (hg : t.isGrouper = false)
    (h : v.step .truth env i t stack = .error f) :
    ∃ c, t = v.operator c ∧ f = .starved c i ∧ (stack.length : Int) < c.arity := by
  rcases mem_tokens_cases ht with hop | ⟨c, rfl⟩ | rfl | rfl
  · simp only [step, operand_tag hop, hv.defines_of_mem ht] at h
    cases hval : t.value <;> simp [hval] at h
  · simp only [step, operator_tag, operator_name, Connective.ofName?_name] at h
    exact ⟨c, rfl, starved_of_apply h⟩
  · cases hg
  · cases hg

/-- A run over known operands and operators stops at an operator that finds too few values. -/
theorem starved_of_runFrom (hv : v.Ranked) {env : Text → Bool} {i : Nat} {ts : List Token}
    {stack : List Bool} {f : Fault} (hts : ∀ t ∈ ts, t ∈ v.tokens ∧ t.isGrouper = false)
    (h : v.runFrom .truth env i stack (Token.items ts) = .error f) :
    ∃ xs c ys, ts = xs ++ v.operator c :: ys ∧ f = .starved c (i + xs.length) ∧
      stack.length + weights xs < c.arity := by
  induction ts generalizing i stack with
  | nil => cases h
  | cons t ts ih =>
    obtain ⟨ht, hg⟩ := hts t (by simp)
    rw [Token.items, List.map_cons, runFrom, canonical, hv.canonicalToken_of_mem ht] at h
    rcases bind_error.mp h with hs | ⟨m, hs, hrun⟩
    · obtain ⟨c, rfl, rfl, hfew⟩ := starved_of_step hv ht hg hs
      exact ⟨[], c, ts, rfl, rfl, by simpa using hfew⟩
    · obtain ⟨xs, c, ys, rfl, rfl, hfew⟩ := ih (fun u hu => hts u (by simp [hu])) hrun
      have hstep := length_step hs
      refine ⟨t :: xs, c, ys, rfl, by rw [List.length_cons, Nat.add_assoc, Nat.add_comm 1], ?_⟩
      rw [weights_cons]
      omega

/-- On known operands and operators the machine only fails for want of operands or of
operators. -/
theorem run_error (hv : v.Ranked) {env : Text → Bool} {ts : List Token} {f : Fault}
    (hts : ∀ t ∈ ts, t ∈ v.tokens ∧ t.isGrouper = false)
    (h : v.run .truth env (Token.items ts) = .error f) :
    (∃ n, f = .leftover n) ∨ ∃ xs c ys, ts = xs ++ v.operator c :: ys ∧
      f = .starved c xs.length ∧ weights xs < c.arity := by
  rcases bind_error.mp h with hrun | ⟨stack, -, hleft⟩
  · obtain ⟨xs, c, ys, hsplit, hf, hfew⟩ := starved_of_runFrom hv hts hrun
    exact .inr ⟨xs, c, ys, hsplit, by simpa using hf, by simpa using hfew⟩
  · match stack, hleft with
    | [], hleft | _ :: _ :: _, hleft => exact .inl ⟨_, (Except.error.inj hleft).symm⟩

theorem kind_of_run_error (hv : v.Ranked) {env : Text → Bool} {ts : List Token} {f : Fault}
    (hts : ∀ t ∈ ts, t ∈ v.tokens ∧ t.isGrouper = false)
    (h : v.run .truth env (Token.items ts) = .error f) : f.kind = .incompleteExpression := by
  rcases run_error hv hts h with ⟨n, rfl⟩ | ⟨xs, c, ys, -, rfl, -⟩
  · rfl
  · rfl

/-! ## Evaluation -/

/-- How the evaluation of tokens of the vocabulary can end: at the scan, at the parentheses, for
want of operands or of operators, or with a value. -/
inductive Ends (v : Vocabulary) (ts : List Token) : Except Fault Bool → Prop where
  | scan {f : Fault} (hval : v.validate (Token.items ts) = .error f) : Ends v ts (.error f)
  | parentheses {f : Fault} (hval : v.validate (Token.items ts) = .ok ()) (hunbal : ¬ Balanced ts)
      (hkind : f.kind = .mismatchedParentheses) : Ends v ts (.error f)
  | operands {f : Fault} (hval : v.validate (Token.items ts) = .ok ()) (hbal : Balanced ts)
      (hkind : f.kind = .incompleteExpression) : Ends v ts (.error f)
  | value {b : Bool} (hval : v.validate (Token.items ts) = .ok ()) (hbal : Balanced ts)
      (hweights : weights ts = 1) : Ends v ts (.ok b)

/-- The postfix form of known tokens is made of known operands and operators. -/
theorem known_of_toPostfix (hv : v.Ranked) {ts us : List Token} (hts : ∀ t ∈ ts, t ∈ v.tokens)
    (h : v.toPostfix (Token.items ts) = .ok us) : ∀ t ∈ us, t ∈ v.tokens ∧ t.isGrouper = false := by
  intro t ht
  have hmem := (toPostfix_perm h).mem_iff.mp ht
  rw [hv.map_canonicalToken hts] at hmem
  simpa using And.imp (hts t) id (List.mem_filter.mp hmem)

theorem ends_evaluate (hv : v.Ranked) {ts : List Token} (hts : ∀ t ∈ ts, t ∈ v.tokens)
    (env : Text → Bool) : Ends v ts (v.evaluate (Token.items ts) env) := by
  -- Balance is whether there is a postfix form, so the cases are those of the three stages.
  have hbal := v.toPostfix_ok_iff_balanced ts
  rw [evaluate, compile]
  cases hval : v.validate (Token.items ts) with
  | error f => exact .scan hval
  | ok =>
    cases hpost : v.toPostfix (Token.items ts) with
    | error f =>
      refine .parentheses hval ?_ (kind_of_toPostfix_error hpost)
      intro h
      obtain ⟨us, hus⟩ := hbal.mpr h
      cases hpost.symm.trans hus
    | ok us =>
      have hus := known_of_toPostfix hv hts hpost
      show Ends v ts (v.run .truth env (Token.items us))
      cases hrun : v.run .truth env (Token.items us) with
      | error f => exact .operands hval (hbal.mp ⟨us, hpost⟩) (kind_of_run_error hv hus hrun)
      | ok b =>
        have hweights := (weights_of_toPostfix hpost).symm.trans (weights_of_run hrun)
        exact .value hval (hbal.mp ⟨us, hpost⟩) hweights

end Vocabulary

end InfixLogic
