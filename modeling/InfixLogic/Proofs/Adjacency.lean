import InfixLogic.Proofs.Canonical
import Mathlib.Data.List.Chain

/- The scan as a property of neighbours.

   `Meets a b` is what the rules ask of a token `a` with `b` right behind it. A scan succeeds
   exactly if all operands are known, every two neighbours meet, and no binary operator stands
   first or last (`checkFrom_ok_iff`, `validate_ok_iff`). A scan that fails breaks one of six
   rules at some token: `Breaks` lists them with what each says of the token and its
   neighbours, and `checkFrom_error` finds the token.

   A scan can be cut anywhere, as long as the front keeps the first token behind the cut in view
   (`checkBefore`, `checkFrom_append`). -/

namespace InfixLogic

/-- `b` may stand right behind `a`. -/
structure Meets (a b : Token) : Prop where
  /-- Behind the end of an operand no operand begins. -/
  separated : a.closesOperand = true → b.opensOperand = false
  /-- An opening parenthesis is not closed at once. -/
  filled : a.tag = .leftParen → b.tag ≠ .rightParen
  /-- A binary operator has the end of an operand in front of it. -/
  preceded : b.isBinary = true → a.tag ≠ .operator ∧ a.tag ≠ .leftParen

/-- The rules that the token `t` at position `i` can break, each with its fault. -/
inductive Breaks (v : Vocabulary) (previous : Option Token) (i : Nat) (t : Token)
    (next : Option Token) : Fault → Prop where
  | unknownOperand (operand : t.isOperand = true) (unknown : v.defines t = false) :
      Breaks v previous i t next (.unknownOperand t.name i)
  | missingOperator {n : Token} (hn : next = some n) (closes : t.closesOperand = true)
      (opens : n.opensOperand = true) : Breaks v previous i t next (.missingOperator (i + 1))
  | emptyGroup {n : Token} (hn : next = some n) (opening : t.tag = .leftParen)
      (closing : n.tag = .rightParen) : Breaks v previous i t next (.emptyGroup i)
  | danglingOperator (binary : t.isBinary = true) (missing : previous = none ∨ next = none) :
      Breaks v previous i t next (.danglingOperator i)
  | binaryAfterOpening {p : Token} (hp : previous = some p) (binary : t.isBinary = true)
      (opening : p.tag = .operator ∨ p.tag = .leftParen) :
      Breaks v previous i t next (.binaryAfterOpening i)
  | binaryAfterNegation {n : Token} (hn : next = some n) (operator : t.isOperator = true)
      (unary : t.isBinary = false) (binary : n.isBinary = true) :
      Breaks v previous i t next (.binaryAfterNegation (i + 1))

/-- The kinds of fault that a scan can tell. -/
theorem Breaks.kind {v : Vocabulary} {previous next : Option Token} {i : Nat} {t : Token}
    {f : Fault} (h : Breaks v previous i t next f) :
    f.kind ≠ .mismatchedParentheses ∧ f.kind ≠ .incompleteExpression ∧
      f.kind ≠ .unknownOperator ∧ (v.defines t = true → f.kind ≠ .unknownToken) := by
  cases h with
  | unknownOperand operand unknown => simp [Fault.kind, unknown]
  | _ => simp [Fault.kind]

namespace Vocabulary

variable {v : Vocabulary} {previous next : Option Token} {i : Nat} {t : Token}

/-! ## One token -/

theorem checkOperand_ok_iff :
    v.checkOperand i t = .ok () ↔ (t.isOperand = true → v.defines t = true) := by
  unfold checkOperand
  cases t.isOperand <;> cases v.defines t <;> simp

theorem checkSeparated_ok_iff :
    checkSeparated i t next = .ok () ↔
      ∀ n ∈ next, t.closesOperand = true → n.opensOperand = false := by
  unfold checkSeparated
  cases next with
  | none => simp
  | some n => cases t.closesOperand <;> cases n.opensOperand <;> simp

theorem checkGroup_ok_iff :
    checkGroup i t next = .ok () ↔ ∀ n ∈ next, t.tag = .leftParen → n.tag ≠ .rightParen := by
  unfold checkGroup
  cases next with
  | none => simp
  | some n => by_cases ht : t.tag = .leftParen <;> by_cases hn : n.tag = .rightParen <;> simp [ht, hn]

theorem checkBinary_ok_iff :
    checkBinary previous i t next = .ok () ↔ (t.isBinary = true →
      (∃ p, previous = some p ∧ p.tag ≠ .operator ∧ p.tag ≠ .leftParen) ∧ next ≠ none) := by
  unfold checkBinary
  cases t.isBinary with
  | false => simp
  | true =>
    cases previous with
    | none => simp
    | some p =>
      cases next with
      | none => simp
      | some n =>
        by_cases ho : p.tag = .operator <;> by_cases hl : p.tag = .leftParen <;> simp [ho, hl]

theorem checkNegation_ok_iff :
    checkNegation i t next = .ok () ↔
      ∀ n ∈ next, t.isOperator = true → t.isBinary = false → n.isBinary = false := by
  unfold checkNegation
  cases next with
  | none => simp
  | some n => cases t.isOperator <;> cases t.isBinary <;> cases n.isBinary <;> simp

theorem checkToken_ok_iff :
    v.checkToken previous i t next = .ok () ↔
      v.checkOperand i t = .ok () ∧ checkSeparated i t next = .ok () ∧
        checkGroup i t next = .ok () ∧ checkBinary previous i t next = .ok () ∧
        checkNegation i t next = .ok () := by
  simp [checkToken, bind_ok, Unique.exists_iff]

section Faults
variable {f : Fault}

theorem checkOperand_error (h : v.checkOperand i t = .error f) : Breaks v previous i t next f := by
  unfold checkOperand at h
  split at h
  · next hc =>
    simp only [Bool.and_eq_true, Bool.not_eq_true'] at hc
    exact Except.error.inj h ▸ .unknownOperand hc.1 hc.2
  · cases h

theorem checkSeparated_error (h : checkSeparated i t next = .error f) :
    Breaks v previous i t next f := by
  unfold checkSeparated at h
  split at h
  · next hc =>
    simp only [Bool.and_eq_true, Option.any_eq_true] at hc
    obtain ⟨hc, n, hn, ho⟩ := hc
    exact Except.error.inj h ▸ .missingOperator hn hc ho
  · cases h

theorem checkGroup_error (h : checkGroup i t next = .error f) : Breaks v previous i t next f := by
  unfold checkGroup at h
  split at h
  · next hc =>
    simp only [Bool.and_eq_true, beq_iff_eq, Option.any_eq_true] at hc
    obtain ⟨hc, n, hn, hr⟩ := hc
    exact Except.error.inj h ▸ .emptyGroup hn hc hr
  · cases h

theorem checkBinary_error (h : checkBinary previous i t next = .error f) :
    Breaks v previous i t next f := by
  unfold checkBinary at h
  split at h
  · cases h
  · next hb =>
    have hb : t.isBinary = true := by simpa using hb
    split at h
    · split at h
      · next hp =>
        simp only [Bool.or_eq_true, beq_iff_eq] at hp
        exact Except.error.inj h ▸ .binaryAfterOpening rfl hb hp
      · cases h
    · next hnone =>
      -- One of the two neighbours is missing, or the match would have gone the other way.
      refine Except.error.inj h ▸ .danglingOperator hb ?_
      cases hp : previous with
      | none => exact .inl rfl
      | some p =>
        cases hn : next with
        | none => exact .inr rfl
        | some n => exact absurd hn (hnone p n hp)

theorem checkNegation_error (h : checkNegation i t next = .error f) :
    Breaks v previous i t next f := by
  unfold checkNegation at h
  split at h
  · next hc =>
    simp only [Bool.and_eq_true, Bool.not_eq_true', Option.any_eq_true] at hc
    obtain ⟨⟨ho, hu⟩, n, hn, hb⟩ := hc
    exact Except.error.inj h ▸ .binaryAfterNegation hn ho hu hb
  · cases h

/-- The fault that is told is one of a rule that is broken. -/
theorem checkToken_error (h : v.checkToken previous i t next = .error f) :
    Breaks v previous i t next f := by
  simp only [checkToken, bind_error] at h
  rcases h with h | ⟨-, -, h | ⟨-, -, h | ⟨-, -, h | ⟨-, -, h⟩⟩⟩⟩
  · exact checkOperand_error h
  · exact checkSeparated_error h
  · exact checkGroup_error h
  · exact checkBinary_error h
  · exact checkNegation_error h

end Faults

/-! ## Scans -/

/-- What a scan that succeeds has seen. -/
theorem checkFrom_ok_iff {ts : List Token} :
    v.checkFrom previous i ts = .ok () ↔
      (∀ t ∈ ts, t.isOperand = true → v.defines t = true) ∧ ts.IsChain Meets ∧
        (∀ t ∈ ts.head?, t.isBinary = true →
          ∃ p, previous = some p ∧ p.tag ≠ .operator ∧ p.tag ≠ .leftParen) ∧
        ∀ t ∈ ts.getLast?, t.isBinary = false := by
  induction ts generalizing previous i with
  | nil => simp [checkFrom]
  | cons t rest ih =>
    have hcons : v.checkFrom previous i (t :: rest) = .ok () ↔
        v.checkToken previous i t rest.head? = .ok () ∧
          v.checkFrom (some t) (i + 1) rest = .ok () := by
      simp [checkFrom, bind_ok, Unique.exists_iff]
    rw [hcons, ih, checkToken_ok_iff, checkOperand_ok_iff, checkSeparated_ok_iff,
      checkGroup_ok_iff, checkBinary_ok_iff, checkNegation_ok_iff]
    cases rest with
    | nil => simp +contextual
    | cons u rest =>
      simp only [List.head?_cons, Option.mem_some_iff, forall_eq', List.isChain_cons_cons,
        List.mem_cons, forall_eq_or_imp, Option.some.injEq, exists_eq_left', ne_eq,
        reduceCtorEq, not_false_eq_true, and_true, List.getLast?_cons_cons]
      constructor
      · rintro ⟨⟨ho, hsep, hgroup, hbin, -⟩, hops, hchain, hhead, hlast⟩
        exact ⟨⟨ho, hops⟩, ⟨⟨hsep, hgroup, hhead⟩, hchain⟩, hbin, hlast⟩
      · rintro ⟨⟨ho, hops⟩, ⟨hmeets, hchain⟩, hbin, hlast⟩
        refine ⟨⟨ho, hmeets.separated, hmeets.filled, hbin, ?_⟩, hops, hchain, hmeets.preceded,
          hlast⟩
        intro hop _
        -- A binary operator behind an operator is refused already by its own rule.
        cases hu : u.isBinary with
        | false => rfl
        | true => exact absurd (by simpa [Token.isOperator] using hop) (hmeets.preceded hu).1

theorem getLast?_cons_or (t : Token) (ts : List Token) :
    (t :: ts).getLast?.or previous = ts.getLast?.or (some t) := by
  cases h : ts.getLast? <;> simp [List.getLast?_cons, h]

/-- The scan of tokens that stand in front of `next`. -/
def checkBefore (v : Vocabulary) (next previous : Option Token) (i : Nat) :
    List Token → Except Fault Unit
  | [] => .ok ()
  | t :: rest => do
    v.checkToken previous i t (rest.head?.or next)
    v.checkBefore next (some t) (i + 1) rest

/-- A scan goes through the front with the first token behind it in view, and on from there. -/
theorem checkFrom_append (xs ys : List Token) :
    v.checkFrom previous i (xs ++ ys) =
      (v.checkBefore ys.head? previous i xs >>= fun _ =>
        v.checkFrom (xs.getLast?.or previous) (i + xs.length) ys) := by
  induction xs generalizing previous i with
  | nil => rfl
  | cons x xs ih =>
    rw [List.cons_append, checkFrom, checkBefore, List.head?_append, ih, getLast?_cons_or,
      List.length_cons, Nat.add_assoc, Nat.add_comm 1, bind_assoc]

theorem checkBefore_none (ts : List Token) :
    v.checkBefore none previous i ts = v.checkFrom previous i ts := by
  induction ts generalizing previous i with
  | nil => rfl
  | cons t ts ih => rw [checkBefore, checkFrom, ih, Option.or_none]

/-- A scan that fails does so at a token that breaks a rule. -/
theorem checkBefore_error {ts : List Token} {f : Fault}
    (h : v.checkBefore next previous i ts = .error f) :
    ∃ xs t ys, ts = xs ++ t :: ys ∧
      Breaks v (xs.getLast?.or previous) (i + xs.length) t (ys.head?.or next) f := by
  induction ts generalizing previous i with
  | nil => cases h
  | cons t rest ih =>
    rw [checkBefore, bind_error] at h
    rcases h with h | ⟨-, -, h⟩
    · exact ⟨[], t, rest, rfl, checkToken_error h⟩
    · obtain ⟨xs, u, ys, rfl, hb⟩ := ih h
      refine ⟨t :: xs, u, ys, rfl, ?_⟩
      rw [getLast?_cons_or, List.length_cons, show i + (xs.length + 1) = i + 1 + xs.length by omega]
      exact hb

theorem checkFrom_error {ts : List Token} {f : Fault}
    (h : v.checkFrom previous i ts = .error f) :
    ∃ xs t ys, ts = xs ++ t :: ys ∧
      Breaks v (xs.getLast?.or previous) (i + xs.length) t ys.head? f := by
  rw [← checkBefore_none] at h
  obtain ⟨xs, t, ys, hts, hb⟩ := checkBefore_error h
  exact ⟨xs, t, ys, hts, by rwa [Option.or_none] at hb⟩

/-- A list of tokens passes the check exactly if it is not empty, its operands are known, every
two neighbours meet, and no binary operator stands first or last. -/
theorem validate_ok_iff {ts : List Token} :
    v.validate (Token.items ts) = .ok () ↔
      ts ≠ [] ∧ (∀ t ∈ ts.map v.canonicalToken, t.isOperand = true → v.defines t = true) ∧
        (ts.map v.canonicalToken).IsChain Meets ∧
        (∀ t ∈ (ts.map v.canonicalToken).head?, t.isBinary = false) ∧
        ∀ t ∈ (ts.map v.canonicalToken).getLast?, t.isBinary = false := by
  rw [validate_items]
  by_cases h : ts = []
  · simp [h]
  · rw [if_neg h, checkFrom_ok_iff]
    simp [h]

/-- The kinds of fault that the check of a list of tokens can tell. -/
theorem kind_of_validate_error {ts : List Token} {f : Fault}
    (h : v.validate (Token.items ts) = .error f) :
    f.kind ≠ .mismatchedParentheses ∧ f.kind ≠ .incompleteExpression ∧
      f.kind ≠ .unknownOperator ∧
      ((∀ t ∈ ts, v.defines t = true) → f.kind ≠ .unknownToken) := by
  rw [validate_items] at h
  split at h
  · obtain rfl := Except.error.inj h
    simp [Fault.kind]
  · obtain ⟨xs, t, ys, hts, hb⟩ := checkFrom_error h
    obtain ⟨hm, hi, ho, hu⟩ := hb.kind
    refine ⟨hm, hi, ho, fun hdef => hu ?_⟩
    obtain ⟨u, hmem, rfl⟩ := List.mem_map.mp (show t ∈ ts.map v.canonicalToken by simp [hts])
    simpa using hdef u hmem

end Vocabulary

end InfixLogic
