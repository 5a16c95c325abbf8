import InfixLogic.Proofs.Adjacency
import InfixLogic.Proofs.Height

/- What the position of a fault points at.

   `Located` says for each kind of fault what stands at its position. The scan and the conversion
   read the expression itself, so their positions are indices of it: there stands the operand that
   lacks an operator in front of it, the binary operator that is out of place, or the parenthesis.
   The machine reads the postfix form. It tells an operator that finds too few values by its place
   there, where the operator has moved and the parentheses are gone: in the expression another
   token may stand at that place.

   Every fault of tokens of the vocabulary is located in this sense, and every position is less
   than the length of the expression (`position_located`). -/

namespace InfixLogic

open Token (weights)

/-- What stands at the position of a fault, by its kind. An operator that lacks operands has its
position in the postfix form; all other positions are those of the expression. -/
inductive Located (v : Vocabulary) (ts : List Token) : FaultKind → Nat → Prop where
  /-- An operand or an opening parenthesis stands right behind an operand or a closing one. -/
  | missingOperator {xs ys : List Token} {a b : Token} (split : ts = xs ++ a :: b :: ys)
      (closes : a.closesOperand = true) (opens : b.opensOperand = true) :
      Located v ts .missingOperator (xs.length + 1)
  /-- An opening parenthesis is closed at once. -/
  | emptyGroup {xs ys : List Token} {a b : Token} (split : ts = xs ++ a :: b :: ys)
      (opening : a.tag = .leftParen) (closing : b.tag = .rightParen) :
      Located v ts .emptyGroup xs.length
  /-- A binary operator stands first or last. -/
  | danglingOperator {xs ys : List Token} {t : Token} (split : ts = xs ++ t :: ys)
      (binary : t.isBinary = true) (outermost : xs = [] ∨ ys = []) :
      Located v ts .danglingOperator xs.length
  /-- A binary operator stands behind an operator or an opening parenthesis. -/
  | invalidOperatorPlacement {xs ys : List Token} {a b : Token} (split : ts = xs ++ a :: b :: ys)
      (opening : a.tag = .operator ∨ a.tag = .leftParen) (binary : b.isBinary = true) :
      Located v ts .invalidOperatorPlacement (xs.length + 1)
  /-- A closing parenthesis stands where all parentheses in front of it are closed. -/
  | mismatchedParentheses {xs ys : List Token} {t : Token} (split : ts = xs ++ t :: ys)
      (closing : t.tag = .rightParen) (balanced : Balanced xs) :
      Located v ts .mismatchedParentheses xs.length
  /-- In the postfix form an operator stands where fewer values are left than it takes. -/
  | incompleteExpression {us ws : List Token} {c : Connective}
      (converted : v.toPostfix (Token.items ts) = .ok (us ++ v.operator c :: ws))
      (few : weights us < c.arity) : Located v ts .incompleteExpression us.length

variable {v : Vocabulary} {ts : List Token}

/-! ## The stages -/

/-- A rule that is broken by known tokens is broken at the position that is told. -/
theorem Breaks.located {xs ys : List Token} {t : Token} {f : Fault} {p : Nat}
    (h : Breaks v xs.getLast? xs.length t ys.head? f) (hdef : v.defines t = true)
    (hp : f.position = some p) : Located v (xs ++ t :: ys) f.kind p := by
  cases h with
  | unknownOperand _ unknown => cases hdef.symm.trans unknown
  | missingOperator hn closes opens =>
    obtain ⟨ys, rfl⟩ := List.head?_eq_some_iff.mp hn
    obtain rfl := Option.some.inj hp
    exact .missingOperator rfl closes opens
  | emptyGroup hn opening closing =>
    obtain ⟨ys, rfl⟩ := List.head?_eq_some_iff.mp hn
    obtain rfl := Option.some.inj hp
    exact .emptyGroup rfl opening closing
  | danglingOperator binary missing =>
    obtain rfl := Option.some.inj hp
    exact .danglingOperator rfl binary (by simpa using missing)
  | binaryAfterOpening hprevious binary opening =>
    obtain ⟨xs, rfl⟩ := List.getLast?_eq_some_iff.mp hprevious
    obtain rfl := Option.some.inj hp
    rw [List.length_append]
    exact .invalidOperatorPlacement (List.append_assoc _ _ _) opening binary
  | binaryAfterNegation hn operator _ binary =>
    obtain ⟨ys, rfl⟩ := List.head?_eq_some_iff.mp hn
    obtain rfl := Option.some.inj hp
    exact .invalidOperatorPlacement rfl (.inl (by simpa [Token.isOperator] using operator)) binary

namespace Vocabulary

theorem located_of_validate (hv : v.Ranked) (hts : ∀ t ∈ ts, t ∈ v.tokens) {f : Fault} {p : Nat}
    (h : v.validate (Token.items ts) = .error f) (hp : f.position = some p) :
    Located v ts f.kind p := by
  rw [validate_items, hv.map_canonicalToken hts] at h
  split at h
  · obtain rfl := Except.error.inj h
    cases hp
  · obtain ⟨xs, t, ys, rfl, hb⟩ := checkFrom_error h
    rw [Option.or_none, Nat.zero_add] at hb
    exact hb.located (hv.defines_of_mem (hts t (by simp))) hp

theorem located_of_toPostfix {f : Fault} {p : Nat}
    (h : v.toPostfix (Token.items ts) = .error f) (hp : f.position = some p) :
    Located v ts f.kind p := by
  rcases toPostfix_error h with rfl | ⟨xs, t, ys, rfl, htag, hbal, rfl⟩
  · cases hp
  · obtain rfl := Option.some.inj hp
    exact .mismatchedParentheses rfl htag hbal

theorem located_of_run (hv : v.Ranked) (hts : ∀ t ∈ ts, t ∈ v.tokens) {env : Text → Bool}
    {us : List Token} {f : Fault} {p : Nat} (hpost : v.toPostfix (Token.items ts) = .ok us)
    (h : v.run .truth env (Token.items us) = .error f) (hp : f.position = some p) :
    Located v ts f.kind p := by
  have hknown := known_of_toPostfix hv hts hpost
  rcases run_error hv hknown h with ⟨n, rfl⟩ | ⟨xs, c, ys, rfl, rfl, hfew⟩
  · cases hp
  · obtain rfl := Option.some.inj hp
    exact .incompleteExpression hpost hfew

/-- The first stage that fails tells the position. -/
theorem located_of_evaluate (hv : v.Ranked) (hts : ∀ t ∈ ts, t ∈ v.tokens) {env : Text → Bool}
    {f : Fault} {p : Nat} (h : v.evaluate (Token.items ts) env = .error f)
    (hp : f.position = some p) : Located v ts f.kind p := by
  rcases bind_error.mp h with hcompile | ⟨us, hcompile, hrun⟩
  · rcases bind_error.mp hcompile with hval | ⟨⟨⟩, -, hpost⟩
    · exact located_of_validate hv hts hval hp
    · exact located_of_toPostfix hpost hp
  · obtain ⟨⟨⟩, -, hpost⟩ := bind_ok.mp hcompile
    exact located_of_run hv hts hpost hrun hp

end Vocabulary

/-- A postfix form is no longer than its expression, so its positions are indices of both. -/
theorem Located.lt_length {kind : FaultKind} {p : Nat} (h : Located v ts kind p) :
    p < ts.length := by
  cases h with
  | incompleteExpression converted =>
    have hlen := (Vocabulary.toPostfix_perm converted).length_eq
    have hle := List.length_filter_le (!·.isGrouper) (ts.map v.canonicalToken)
    rw [List.length_append, List.length_cons] at hlen
    rw [List.length_map] at hle
    omega
  | _ split =>
    subst split
    simp

/-! ## The standard vocabulary -/

open Vocabulary (standard)

/-- The position of a fault is an index of the expression, and what its kind is about stands there:
in the expression, or in the postfix form if an operator lacks operands. -/
theorem position_located {ts : List Token} (hts : ∀ t ∈ ts, t ∈ standard.tokens)
    {env : Environment} {f : Fault} (h : standard.evaluate (Token.items ts) env.truth = .error f)
    {p : Nat} (hp : f.position = some p) : p < ts.length ∧ Located standard ts f.kind p := by
  have hlocated := Vocabulary.located_of_evaluate Vocabulary.standard_conventional.toRanked hts h hp
  exact ⟨hlocated.lt_length, hlocated⟩

/-- The case of `( A || )`: the OR lacks an operand and is told to be at 1, its place in the postfix
form. In the expression A stands there, and the OR stands at 2. -/
theorem position_located_group :
    standard.evaluate (Token.items [.leftParen, .variable "A", standard.operator .or, .rightParen])
        (Environment.truth []) = .error (.starved .or 1) ∧
      Located standard [.leftParen, .variable "A", standard.operator .or, .rightParen]
        .incompleteExpression 1 ∧
      [.leftParen, .variable "A", standard.operator .or, .rightParen][1]? =
        some (Token.variable "A") := by
  have h : standard.evaluate
      (Token.items [.leftParen, .variable "A", standard.operator .or, .rightParen])
      (Environment.truth []) = .error (.starved .or 1) := by decide
  exact ⟨h, (position_located (by decide) h rfl).2, rfl⟩

end InfixLogic
