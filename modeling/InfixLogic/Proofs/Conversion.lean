import InfixLogic.Proofs.Canonical
import Mathlib.Data.List.Basic

/- Runs of the conversion.

   `Conversion.run` carries over canonical tokens, and `convertFrom_items` says that the
   conversion of a list of tokens is such a run. `Moves t s s'` is what one token can do:
   everything below goes by its four cases and never opens `step` again.

   What is proved: a run over an appended list is a run after a run (`run_append`); a postfix form
   comes from a run that leaves no marker behind (`exists_run_of_toPostfix`); and the conversion only
   fails on account of parentheses (`kind_of_toPostfix_error`). -/

namespace InfixLogic

/-- Whether a token is a parenthesis. -/
def Token.isGrouper (t : Token) : Bool := t.tag == .leftParen || t.tag == .rightParen

namespace Conversion

/-! ## One token -/

theorem release_eq (current : Token) (output stack : List Token) :
    release current output stack =
      ⟨(stack.takeWhile (yields current)).reverse ++ output,
        stack.dropWhile (yields current)⟩ := by
  induction stack generalizing output with
  | nil => rfl
  | cons top stack ih =>
    cases h : yields current top <;> simp [release, h, ih]

theorem close?_append {ops rest : List Token} {m : Token} (output : List Token)
    (hops : ∀ o ∈ ops, o.tag ≠ .leftParen) (hm : m.tag = .leftParen) :
    close? output (ops ++ m :: rest) = some ⟨ops.reverse ++ output, rest⟩ := by
  induction ops generalizing output with
  | nil => simp [close?, hm]
  | cons o ops ih =>
    rw [List.cons_append, close?, if_neg (hops o (by simp)), ih _ fun p hp => hops p (by simp [hp])]
    simp

theorem close?_eq_none {stack : List Token} (output : List Token)
    (h : ∀ t ∈ stack, t.tag ≠ .leftParen) : close? output stack = none := by
  induction stack generalizing output with
  | nil => rfl
  | cons t stack ih =>
    rw [close?, if_neg (h t (by simp))]
    exact ih _ fun p hp => h p (by simp [hp])

/-- A stack holds no marker, or it splits at the topmost one. -/
theorem marker_cases (stack : List Token) :
    (∀ t ∈ stack, t.tag ≠ .leftParen) ∨
      ∃ ops m rest, stack = ops ++ m :: rest ∧ (∀ o ∈ ops, o.tag ≠ .leftParen) ∧
        m.tag = .leftParen := by
  induction stack with
  | nil => exact .inl (by simp)
  | cons t stack ih =>
    by_cases ht : t.tag = .leftParen
    · exact .inr ⟨[], t, stack, rfl, by simp, ht⟩
    · rcases ih with h | ⟨ops, m, rest, rfl, hops, hm⟩
      · exact .inl (by simpa [ht] using h)
      · exact .inr ⟨t :: ops, m, rest, rfl, by simpa [ht] using hops, hm⟩

theorem finish?_of_no_marker {stack : List Token} (output : List Token)
    (h : ∀ t ∈ stack, t.tag ≠ .leftParen) :
    finish? output stack = some (output.reverse ++ stack) := by
  induction stack generalizing output with
  | nil => simp [finish?]
  | cons t stack ih =>
    rw [finish?, if_neg (h t (by simp)), ih _ fun p hp => h p (by simp [hp])]
    simp

theorem finish?_of_marker {stack : List Token} (output : List Token) {m : Token}
    (hm : m ∈ stack) (htag : m.tag = .leftParen) : finish? output stack = none := by
  induction stack generalizing output with
  | nil => cases hm
  | cons t stack ih =>
    rw [finish?]
    split
    · rfl
    · next ht =>
      rcases List.mem_cons.mp hm with rfl | hm
      · exact absurd htag ht
      · exact ih _ hm

theorem operator_of_yields {current top : Token} (h : yields current top = true) :
    top.tag = .operator := by
  simp only [yields, Bool.and_eq_true, beq_iff_eq] at h
  exact h.1

/-- What a token can do to a conversion. -/
inductive Moves (t : Token) : Conversion → Conversion → Prop where
  | operand (tag : t.tag = .operand) (output stack : List Token) :
      Moves t ⟨output, stack⟩ ⟨t :: output, stack⟩
  | operator (tag : t.tag = .operator) (output ops rest : List Token)
      (released : ∀ o ∈ ops, yields t o = true) (kept : ∀ o ∈ rest.head?, yields t o = false) :
      Moves t ⟨output, ops ++ rest⟩ ⟨ops.reverse ++ output, t :: rest⟩
  | leftParen (tag : t.tag = .leftParen) (output stack : List Token) :
      Moves t ⟨output, stack⟩ ⟨output, t :: stack⟩
  | rightParen (tag : t.tag = .rightParen) (output ops rest : List Token) (m : Token)
      (released : ∀ o ∈ ops, o.tag ≠ .leftParen) (marker : m.tag = .leftParen) :
      Moves t ⟨output, ops ++ m :: rest⟩ ⟨ops.reverse ++ output, rest⟩

theorem Moves.step {t : Token} {s s' : Conversion} (h : Moves t s s') (i : Nat) :
    s.step i t = .ok s' := by
  cases h with
  | operand tag => simp [Conversion.step, tag]
  | operator tag output ops rest released kept =>
    have hrest : rest.takeWhile (yields t) = [] ∧ rest.dropWhile (yields t) = rest := by
      cases rest with
      | nil => simp
      | cons o rest => simp [kept o rfl]
    simp only [Conversion.step, tag, release_eq]
    rw [List.takeWhile_append_of_pos released, List.dropWhile_append_of_pos released, hrest.1,
      hrest.2, List.append_nil]
  | leftParen tag => simp [Conversion.step, tag]
  | rightParen tag output ops rest m released marker =>
    simp [Conversion.step, tag, close?_append output released marker]

theorem moves_of_step {t : Token} {s s' : Conversion} {i : Nat} (h : s.step i t = .ok s') :
    Moves t s s' := by
  obtain ⟨output, stack⟩ := s
  cases htag : t.tag with
  | operand =>
    simp only [Conversion.step, htag, Except.ok.injEq] at h
    exact h ▸ .operand htag _ _
  | operator =>
    simp only [Conversion.step, htag, release_eq, Except.ok.injEq] at h
    -- What goes is the longest part of the stack that yields, so the next one stays.
    have hreleased : ∀ o ∈ stack.takeWhile (yields t), yields t o = true :=
      List.all_eq_true.mp List.all_takeWhile
    have hkept : ∀ o ∈ (stack.dropWhile (yields t)).head?, yields t o = false := by
      intro o ho
      have := List.head?_dropWhile_not (yields t) stack
      rw [Option.mem_def.mp ho] at this
      simpa using this
    have hm := Moves.operator htag output _ _ hreleased hkept
    rw [List.takeWhile_append_dropWhile] at hm
    exact h ▸ hm
  | leftParen =>
    simp only [Conversion.step, htag, Except.ok.injEq] at h
    exact h ▸ .leftParen htag _ _
  | rightParen =>
    simp only [Conversion.step, htag] at h
    rcases marker_cases stack with hno | ⟨ops, m, rest, rfl, hops, hm⟩
    · rw [close?_eq_none _ hno] at h
      cases h
    · rw [close?_append _ hops hm] at h
      exact Except.ok.inj h ▸ .rightParen htag _ _ _ _ hops hm

/-- Only a closing parenthesis can fail, and only where no opening one waits. -/
theorem step_error {t : Token} {s : Conversion} {i : Nat} {f : Fault}
    (h : s.step i t = .error f) :
    f = .unmatchedClosing i ∧ t.tag = .rightParen ∧ ∀ o ∈ s.stack, o.tag ≠ .leftParen := by
  cases htag : t.tag with
  | rightParen =>
    simp only [Conversion.step, htag] at h
    rcases marker_cases s.stack with hno | ⟨ops, m, rest, hs, hops, hm⟩
    · rw [close?_eq_none _ hno] at h
      exact ⟨(Except.error.inj h).symm, rfl, hno⟩
    · rw [hs, close?_append _ hops hm] at h
      cases h
  | _ => simp [Conversion.step, htag] at h

/-! ## Runs -/

/-- Carries tokens over one after another, the first of them at a position. -/
def run (i : Nat) (s : Conversion) : List Token → Except Fault Conversion
  | [] => .ok s
  | t :: rest => do
    let s ← s.step i t
    run (i + 1) s rest

theorem run_cons {t : Token} {s m : Conversion} (h : Moves t s m) (i : Nat) (ts : List Token) :
    run i s (t :: ts) = run (i + 1) m ts := by
  rw [run, h.step i]
  rfl

theorem run_append (i : Nat) (s : Conversion) (ts us : List Token) :
    run i s (ts ++ us) = (run i s ts).bind fun m => run (i + ts.length) m us := by
  induction ts generalizing i s with
  | nil => rfl
  | cons t ts ih =>
    rw [List.cons_append, run, run]
    cases s.step i t with
    | error f => rfl
    | ok m => exact (ih (i + 1) m).trans (by rw [List.length_cons, Nat.add_right_comm i]; rfl)

/-- A run that ends began with a move and went on. -/
theorem run_cons_ok {t : Token} {s s' : Conversion} {i : Nat} {ts : List Token}
    (h : run i s (t :: ts) = .ok s') : ∃ m, Moves t s m ∧ run (i + 1) m ts = .ok s' := by
  obtain ⟨m, hs, hrun⟩ := bind_ok.mp h
  exact ⟨m, moves_of_step hs, hrun⟩

/-- Nothing leaves the output again. -/
theorem run_output_suffix {s s' : Conversion} {i : Nat} {ts : List Token}
    (h : run i s ts = .ok s') : s.output <:+ s'.output := by
  induction ts generalizing i s with
  | nil => exact Except.ok.inj h ▸ List.suffix_rfl
  | cons t ts ih =>
    obtain ⟨m, hm, hrest⟩ := run_cons_ok h
    refine .trans ?_ (ih hrest)
    cases hm with
    | operand => exact List.suffix_cons _ _
    | leftParen => exact List.suffix_rfl
    | operator | rightParen => exact List.suffix_append _ _

/-- A run that fails does so at a closing parenthesis, where no opening one waits. -/
theorem run_error {s : Conversion} {i : Nat} {ts : List Token} {f : Fault}
    (h : run i s ts = .error f) :
    ∃ xs t ys m, ts = xs ++ t :: ys ∧ run i s xs = .ok m ∧ f = .unmatchedClosing (i + xs.length) ∧
      t.tag = .rightParen ∧ ∀ o ∈ m.stack, o.tag ≠ .leftParen := by
  induction ts generalizing i s with
  | nil => cases h
  | cons t ts ih =>
    rcases bind_error.mp h with hs | ⟨m, hs, hrun⟩
    · obtain ⟨rfl, htag, hno⟩ := step_error hs
      exact ⟨[], t, ts, s, rfl, rfl, rfl, htag, hno⟩
    · obtain ⟨xs, u, ys, m', rfl, hxs, rfl, htag, hno⟩ := ih hrun
      refine ⟨t :: xs, u, ys, m', rfl, ?_, ?_, htag, hno⟩
      · exact (run_cons (moves_of_step hs) i xs).trans hxs
      · rw [List.length_cons, Nat.add_assoc, Nat.add_comm 1]

theorem kind_of_run_error {s : Conversion} {i : Nat} {ts : List Token} {f : Fault}
    (h : run i s ts = .error f) : f.kind = .mismatchedParentheses := by
  obtain ⟨xs, t, ys, m, -, -, rfl, -, -⟩ := run_error h
  rfl

end Conversion

namespace Vocabulary

variable {v : Vocabulary}

/-- The conversion of a list of tokens is a run over their canonical forms. -/
theorem convertFrom_items (v : Vocabulary) (i : Nat) (s : Conversion) (ts : List Token) :
    v.convertFrom i s (Token.items ts) = Conversion.run i s (ts.map v.canonicalToken) := by
  induction ts generalizing i s with
  | nil => rfl
  | cons t ts ih =>
    rw [Token.items, List.map_cons, convertFrom, List.map_cons, Conversion.run]
    show (Conversion.step i (v.canonicalToken t) s).bind _ = _
    cases Conversion.step i (v.canonicalToken t) s with
    | error f => rfl
    | ok m => exact ih (i + 1) m

theorem toPostfix_items (v : Vocabulary) (ts : List Token) :
    v.toPostfix (Token.items ts) =
      (Conversion.run 0 .start (ts.map v.canonicalToken)).bind fun s =>
        (Conversion.finish? s.output s.stack).elim (.error .unmatchedOpening) .ok := by
  rw [toPostfix, convertFrom_items]
  cases Conversion.run 0 .start (ts.map v.canonicalToken) with
  | error f => rfl
  | ok s =>
    simp only [bind, Except.bind]
    cases Conversion.finish? s.output s.stack <;> rfl

/-- The conversion succeeds if the run does and leaves no marker behind. -/
theorem toPostfix_of_run {ts : List Token} {s : Conversion}
    (hrun : Conversion.run 0 .start (ts.map v.canonicalToken) = .ok s)
    (h : ∀ t ∈ s.stack, t.tag ≠ .leftParen) :
    v.toPostfix (Token.items ts) = .ok (s.output.reverse ++ s.stack) := by
  rw [toPostfix_items, hrun]
  show (Conversion.finish? s.output s.stack).elim _ _ = _
  rw [Conversion.finish?_of_no_marker _ h]
  rfl

/-- The conversion fails if the run leaves a marker behind. -/
theorem toPostfix_of_marker {ts : List Token} {s : Conversion} {m : Token}
    (hrun : Conversion.run 0 .start (ts.map v.canonicalToken) = .ok s) (hm : m ∈ s.stack)
    (htag : m.tag = .leftParen) : v.toPostfix (Token.items ts) = .error .unmatchedOpening := by
  rw [toPostfix_items, hrun]
  show (Conversion.finish? s.output s.stack).elim _ _ = _
  rw [Conversion.finish?_of_marker _ hm htag]
  rfl

/-- How a conversion can end: with a result, at a closing parenthesis, or with a marker left. -/
theorem toPostfix_cases (v : Vocabulary) (ts : List Token) :
    (∃ s, Conversion.run 0 .start (ts.map v.canonicalToken) = .ok s ∧
      (∀ t ∈ s.stack, t.tag ≠ .leftParen) ∧
      v.toPostfix (Token.items ts) = .ok (s.output.reverse ++ s.stack)) ∨
    (∃ f, Conversion.run 0 .start (ts.map v.canonicalToken) = .error f ∧
      v.toPostfix (Token.items ts) = .error f) ∨
    ∃ s, Conversion.run 0 .start (ts.map v.canonicalToken) = .ok s ∧
      (∃ m ∈ s.stack, m.tag = .leftParen) ∧
      v.toPostfix (Token.items ts) = .error .unmatchedOpening := by
  cases hrun : Conversion.run 0 .start (ts.map v.canonicalToken) with
  | error f =>
    refine .inr (.inl ⟨f, rfl, ?_⟩)
    rw [toPostfix_items, hrun]
    rfl
  | ok s =>
    by_cases h : ∃ m ∈ s.stack, m.tag = .leftParen
    · obtain ⟨m, hm, htag⟩ := h
      exact .inr (.inr ⟨s, rfl, ⟨m, hm, htag⟩, toPostfix_of_marker hrun hm htag⟩)
    · have hno : ∀ t ∈ s.stack, t.tag ≠ .leftParen := fun t ht htag => h ⟨t, ht, htag⟩
      exact .inl ⟨s, rfl, hno, toPostfix_of_run hrun hno⟩

/-- A postfix form comes from a run that leaves no marker behind. -/
theorem exists_run_of_toPostfix {ts us : List Token} (h : v.toPostfix (Token.items ts) = .ok us) :
    ∃ s, Conversion.run 0 .start (ts.map v.canonicalToken) = .ok s ∧
      (∀ t ∈ s.stack, t.tag ≠ .leftParen) ∧ us = s.output.reverse ++ s.stack := by
  rcases v.toPostfix_cases ts with ⟨s, hrun, hno, hs⟩ | ⟨f, -, hf⟩ | ⟨s, -, -, hs⟩
  · exact ⟨s, hrun, hno, Except.ok.inj (h.symm.trans hs)⟩
  · cases h.symm.trans hf
  · cases h.symm.trans hs

/-- The conversion fails on account of parentheses only. -/
theorem kind_of_toPostfix_error {ts : List Token} {f : Fault}
    (h : v.toPostfix (Token.items ts) = .error f) : f.kind = .mismatchedParentheses := by
  rcases v.toPostfix_cases ts with ⟨s, -, -, hs⟩ | ⟨g, hrun, hg⟩ | ⟨s, -, -, hs⟩
  · rw [hs] at h; cases h
  · rw [hg] at h
    obtain rfl := Except.error.inj h
    exact Conversion.kind_of_run_error hrun
  · rw [hs] at h
    obtain rfl := Except.error.inj h
    rfl

end Vocabulary

end InfixLogic
