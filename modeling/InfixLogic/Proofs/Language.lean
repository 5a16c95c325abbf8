import InfixLogic.Proofs.Postorder
import InfixLogic.Proofs.Reading

/- The language that is evaluated.

   What the grammar derives is accepted, has the postorder of its tree as its postfix form, and
   evaluates to the value of the tree (`derived_evaluates`). The converse fails at one place. The
   scan lets a NOT stand behind the end of an operand, and there the conversion moves it behind
   that operand all the same: `A !` has a value. Among the expressions with a value those with
   such a NOT are exactly the ones that are not derived (`evaluated_derives_iff`).

   Where no NOT stands behind the end of an operand, the language is exact and every fault has
   its cause: `Classified` lists them, and `evaluate_classified` says that the list is right. -/

namespace InfixLogic

/-- A NOT stands right behind an operand or a closing parenthesis. -/
def NegatesBehind (v : Vocabulary) (ts : List Token) : Prop :=
  ∃ a, a.closesOperand = true ∧ [a, v.operator .not] <:+: ts

/-- An operator lacks its operand: it stands right in front of a closing parenthesis, or a NOT
stands last. -/
def LacksOperand (v : Vocabulary) (ts : List Token) : Prop :=
  (∃ a, a.isOperator = true ∧ [a, .rightParen] <:+: ts) ∨ ts.getLast? = some (v.operator .not)

variable {v : Vocabulary} {ts : List Token} {e : Expr}

theorem joins_of_adjacent (h : Shape v ts) {a b : Token} (hin : [a, b] <:+: ts) :
    Joins v a b := by
  have hpair := List.IsChain.infix h.chain hin
  exact List.isChain_pair.mp hpair

theorem Derives.not_negatesBehind (h : Derives v .disjunction ts e) : ¬ NegatesBehind v ts := by
  rintro ⟨a, hclose, hin⟩
  exact (joins_of_adjacent h.shape hin).prefixed hclose rfl

theorem Derives.not_lacksOperand (h : Derives v .disjunction ts e) : ¬ LacksOperand v ts := by
  rintro (⟨a, hop, hin⟩ | hlast)
  · exact (joins_of_adjacent h.shape hin).supplied hop rfl
  · obtain ⟨t, ht, hclose⟩ := h.shape.last
    obtain rfl : v.operator .not = t := Option.some.inj (hlast.symm.trans ht)
    cases hclose

/-- What passes the scan and is balanced can be read from its beginning. -/
theorem reading_of_validate (hv : v.Ranked) (hts : ∀ t ∈ ts, t ∈ v.tokens)
    (hval : v.validate (Token.items ts) = .ok ()) (hbal : Balanced ts)
    (hneg : ¬ NegatesBehind v ts) : ∃ lacking, Reading v .first 0 lacking ts := by
  rw [Vocabulary.validate_ok_iff, hv.map_canonicalToken hts] at hval
  obtain ⟨hne, -, hchain, hhead, -⟩ := hval
  -- The whole is read as if an opening parenthesis stood in front of it.
  refine reading_of_chain (p := .leftParen) hts ?_ ?_ hbal fun _ _ => hne
  · refine List.isChain_cons.mpr ⟨?_, hchain⟩
    intro t ht
    exact {
      separated := fun h => by cases h
      filled := fun _ => hbal.tag_of_head? ht
      preceded := fun h => absurd h (by simp [hhead t ht]) }
  · refine List.isChain_cons.mpr ⟨fun _ _ h => (by cases h), ?_⟩
    refine List.isChain_iff_forall_rel_of_append_cons_cons.mpr ?_
    intro a b xs ys hsplit hclose hb
    exact hneg ⟨a, hclose, xs, ys, by simp [hsplit, hb]⟩

/-- A balanced expression that passes the scan is derived, or some operator lacks its operand and
it weighs too little to have a value. -/
theorem derives_or_lacks (hv : v.Ranked) (hts : ∀ t ∈ ts, t ∈ v.tokens)
    (hval : v.validate (Token.items ts) = .ok ()) (hbal : Balanced ts)
    (hneg : ¬ NegatesBehind v ts) :
    (∃ e, Derives v .disjunction ts e) ∨ (LacksOperand v ts ∧ Token.weights ts < 1) := by
  obtain ⟨lacking, h⟩ := reading_of_validate hv hts hval hbal hneg
  rcases Nat.eq_zero_or_pos lacking with rfl | hpos
  · exact .inl h.derives
  · have hweights := h.weights
    rw [if_neg (by decide)] at hweights
    refine .inr ⟨?_, by omega⟩
    rcases h.lacking_operator hpos with ⟨hdue, -⟩ | hparen | ⟨a, ha, hop⟩
    · cases hdue
    · exact .inl hparen
    · -- The last token is an operator that passed the scan: it is no binary one.
      rw [Vocabulary.validate_ok_iff, hv.map_canonicalToken hts] at hval
      have hunary := hval.2.2.2.2 a ha
      rcases Vocabulary.mem_tokens_cases (hts a (List.mem_of_getLast? ha)) with h | ⟨c, rfl⟩ | rfl | rfl
      · simp [Token.isOperator, Vocabulary.operand_tag h] at hop
      · by_cases hc : c = .not
        · exact .inr (hc ▸ ha)
        · rw [isBinary_operator hc] at hunary
          cases hunary
      · cases hop
      · cases hop

/-! ## The fault of an expression -/

/-- A fault of parentheses is told exactly if the scan succeeds and they do not match. -/
theorem mismatched_iff (hv : v.Ranked) (hts : ∀ t ∈ ts, t ∈ v.tokens) (env : Text → Bool) :
    (∃ f, v.evaluate (Token.items ts) env = .error f ∧ f.kind = .mismatchedParentheses) ↔
      v.validate (Token.items ts) = .ok () ∧ ¬ Balanced ts := by
  have hends := Vocabulary.ends_evaluate hv hts env
  constructor
  · rintro ⟨f, hf, hkind⟩
    rw [hf] at hends
    cases hends with
    | scan hval => exact absurd hkind (Vocabulary.kind_of_validate_error hval).1
    | parentheses hval hunbal _ => exact ⟨hval, hunbal⟩
    | operands _ _ hincomplete => cases hkind.symm.trans hincomplete
  · rintro ⟨hval, hunbal⟩
    generalize v.evaluate (Token.items ts) env = x at hends ⊢
    cases hends with
    | scan hf => cases hval.symm.trans hf
    | parentheses _ _ hkind => exact ⟨_, rfl, hkind⟩
    | operands _ hbal _ | value _ hbal _ => exact absurd hbal hunbal

/-- The other faults that are told are those of the scan. -/
theorem scanned_iff (hv : v.Ranked) (hts : ∀ t ∈ ts, t ∈ v.tokens) (env : Text → Bool)
    (f : Fault) :
    (v.evaluate (Token.items ts) env = .error f ∧ f.kind ≠ .mismatchedParentheses ∧
      f.kind ≠ .incompleteExpression) ↔ v.validate (Token.items ts) = .error f := by
  constructor
  · rintro ⟨hf, hmismatched, hincomplete⟩
    have hends := Vocabulary.ends_evaluate hv hts env
    rw [hf] at hends
    cases hends with
    | scan hval => exact hval
    | parentheses _ _ hkind => exact absurd hkind hmismatched
    | operands _ _ hkind => exact absurd hkind hincomplete
  · intro hval
    obtain ⟨hmismatched, hincomplete, -⟩ := Vocabulary.kind_of_validate_error hval
    refine ⟨?_, hmismatched, hincomplete⟩
    rw [Vocabulary.evaluate, Vocabulary.compile, hval]
    rfl

/-- Tokens of the vocabulary are not told to be unknown. -/
theorem known_of_evaluate_error (hv : v.Ranked) (hts : ∀ t ∈ ts, t ∈ v.tokens)
    {env : Text → Bool} {f : Fault} (h : v.evaluate (Token.items ts) env = .error f) :
    f.kind ≠ .unknownOperator ∧ f.kind ≠ .unknownToken := by
  have hends := Vocabulary.ends_evaluate hv hts env
  rw [h] at hends
  cases hends with
  | scan hval =>
    obtain ⟨-, -, hop, htoken⟩ := Vocabulary.kind_of_validate_error hval
    exact ⟨hop, htoken fun t ht => hv.defines_of_mem (hts t ht)⟩
  | parentheses _ _ hkind | operands _ _ hkind => simp [hkind]

/-- Without a NOT behind the end of an operand exactly the derived expressions have a value. -/
theorem valued_iff (hv : v.Conventional) (hts : ∀ t ∈ ts, t ∈ v.tokens)
    (hneg : ¬ NegatesBehind v ts) (env : Text → Bool) :
    (∃ b, v.evaluate (Token.items ts) env = .ok b) ↔ ∃ e, Derives v .disjunction ts e := by
  constructor
  · rintro ⟨b, h⟩
    have hends := Vocabulary.ends_evaluate hv.toRanked hts env
    rw [h] at hends
    cases hends with
    | value hval hbal hweights =>
      rcases derives_or_lacks hv.toRanked hts hval hbal hneg with hd | ⟨-, hlt⟩
      · exact hd
      · omega
  · rintro ⟨e, he⟩
    exact ⟨_, he.evaluate hv env⟩

/-- Without a NOT behind the end of an operand, an expression is told to be incomplete exactly if
the scan succeeds, parentheses match and some operator lacks its operand. -/
theorem incomplete_iff (hv : v.Conventional) (hts : ∀ t ∈ ts, t ∈ v.tokens)
    (hneg : ¬ NegatesBehind v ts) (env : Text → Bool) :
    (∃ f, v.evaluate (Token.items ts) env = .error f ∧ f.kind = .incompleteExpression) ↔
      v.validate (Token.items ts) = .ok () ∧ Balanced ts ∧ LacksOperand v ts := by
  have hends := Vocabulary.ends_evaluate hv.toRanked hts env
  constructor
  · rintro ⟨f, hf, hkind⟩
    rw [hf] at hends
    cases hends with
    | scan hval => exact absurd hkind (Vocabulary.kind_of_validate_error hval).2.1
    | parentheses _ _ hmismatched => cases hkind.symm.trans hmismatched
    | operands hval hbal _ =>
      refine ⟨hval, hbal, ?_⟩
      rcases derives_or_lacks hv.toRanked hts hval hbal hneg with ⟨e, he⟩ | ⟨hlacks, -⟩
      · cases hf.symm.trans (he.evaluate hv env)
      · exact hlacks
  · rintro ⟨hval, hbal, hlacks⟩
    -- It has no value, as it would be derived then and lack nothing.
    have hnone : ∀ b, v.evaluate (Token.items ts) env ≠ .ok b := by
      intro b hb
      obtain ⟨e, he⟩ := (valued_iff hv hts hneg env).mp ⟨b, hb⟩
      exact he.not_lacksOperand hlacks
    generalize v.evaluate (Token.items ts) env = x at hends hnone ⊢
    cases hends with
    | scan hf => cases hval.symm.trans hf
    | parentheses _ hunbal _ => exact absurd hbal hunbal
    | operands _ _ hkind => exact ⟨_, rfl, hkind⟩
    | value => exact absurd rfl (hnone _)

/-! ## The value of a derived expression -/

/-- Only the free variables of a derived expression are looked up. -/
theorem Derives.eval_congr {s : Stratum} (h : Derives v s ts e) {env env' : Text → Bool}
    (henv : ∀ n ∈ v.freeVariables, env n = env' n) : e.eval env = e.eval env' := by
  induction h with
  | @operand t mem =>
    cases hval : t.value with
    | some b => simp [Expr.eval, hval]
    | none =>
      simp [Expr.eval, hval, henv _ (Vocabulary.mem_freeVariables mem hval)]
  | group _ ih | atom _ ih | negation _ ih | conjunction _ ih => exact ih
  | not _ ih => simp [Expr.eval, ih]
  | and _ _ ihl ihr | or _ _ ihl ihr => simp [Expr.eval, ihl, ihr]

/-! ## The standard vocabulary -/

open Vocabulary (standard)

/-- A derived expression is accepted, its postfix form is the postorder of its tree, and in every
environment its value is that of the tree. Nothing but the free variables is looked up. -/
theorem derived_evaluates {ts : List Token} {e : Expr}
    (h : Derives standard .disjunction ts e) :
    standard.validate (Token.items ts) = .ok () ∧
      standard.toPostfix (Token.items ts) = .ok (e.postorder standard) ∧
      (∀ env : Environment,
        standard.evaluate (Token.items ts) env.truth = .ok (e.eval env.truth)) ∧
      ∀ env env' : Environment, (∀ n ∈ standard.freeVariables, env.truth n = env'.truth n) →
        standard.evaluate (Token.items ts) env.truth =
          standard.evaluate (Token.items ts) env'.truth := by
  have hv := Vocabulary.standard_conventional
  refine ⟨h.validate hv.toRanked, h.toPostfix hv, fun env => h.evaluate hv env.truth, ?_⟩
  intro env env' henv
  rw [h.evaluate hv, h.evaluate hv, h.eval_congr henv]

/-- The case of `! ( A || TRUE ) && B`. -/
theorem derived_evaluates_negated_group :
    ∃ e, Derives standard .disjunction
        [standard.operator .not, .leftParen, .variable "A", standard.operator .or,
          .constant "TRUE" true, .rightParen, standard.operator .and, .variable "B"] e ∧
      standard.toPostfix (Token.items
        [standard.operator .not, .leftParen, .variable "A", standard.operator .or,
          .constant "TRUE" true, .rightParen, standard.operator .and, .variable "B"]) =
        .ok [.variable "A", .constant "TRUE" true, standard.operator .or,
          standard.operator .not, .variable "B", standard.operator .and] := by
  have ha : Token.variable "A" ∈ standard.operands := by decide
  have hb : Token.variable "B" ∈ standard.operands := by decide
  have htrue : Token.constant "TRUE" true ∈ standard.operands := by decide
  have hgroup := (((Derives.operand ha).atom.negation.conjunction).or
    (Derives.operand htrue).atom.negation).group
  have h := (Derives.and hgroup.atom.not.negation (Derives.operand hb).atom).conjunction
  exact ⟨_, h, (derived_evaluates h).2.1⟩

/-- An expression with a value is derived, by a tree with that value, exactly if no NOT stands
behind the end of an operand. -/
theorem evaluated_derives_iff {ts : List Token} (hts : ∀ t ∈ ts, t ∈ standard.tokens)
    {env : Environment} {b : Bool}
    (h : standard.evaluate (Token.items ts) env.truth = .ok b) :
    (∃ e, Derives standard .disjunction ts e ∧ e.eval env.truth = b) ↔
      ¬ NegatesBehind standard ts := by
  have hv := Vocabulary.standard_conventional
  constructor
  · rintro ⟨e, he, -⟩
    exact he.not_negatesBehind
  · intro hneg
    obtain ⟨e, he⟩ := (valued_iff hv hts hneg env.truth).mp ⟨b, h⟩
    rw [he.evaluate hv] at h
    exact ⟨e, he, Except.ok.inj h⟩

/-- The case of `A !`, which has the value that `! A` has. -/
theorem evaluated_derives_iff_not_last :
    standard.evaluate (Token.items [.variable "A", standard.operator .not])
        (Environment.ofBools [("A", true)]).truth = .ok false ∧
      ¬ ∃ e, Derives standard .disjunction [.variable "A", standard.operator .not] e ∧
        e.eval (Environment.ofBools [("A", true)]).truth = false := by
  have h : standard.evaluate (Token.items [.variable "A", standard.operator .not])
      (Environment.ofBools [("A", true)]).truth = .ok false := by decide
  refine ⟨h, fun hd => (evaluated_derives_iff (by decide) h).mp hd ?_⟩
  exact ⟨.variable "A", rfl, [], [], rfl⟩

/-- When an expression has a value, and what each of its faults comes from. -/
structure Classified (ts : List Token) (env : Environment) : Prop where
  /-- It has a value exactly if it is derived. -/
  derived : (∃ b, standard.evaluate (Token.items ts) env.truth = .ok b) ↔
    ∃ e, Derives standard .disjunction ts e
  /-- Parentheses are at fault exactly if the scan accepts it and they do not match. -/
  mismatched : (∃ f, standard.evaluate (Token.items ts) env.truth = .error f ∧
      f.kind = .mismatchedParentheses) ↔
    standard.validate (Token.items ts) = .ok () ∧ ¬ Balanced ts
  /-- It is incomplete exactly if the scan accepts it, parentheses match and some operator lacks
  its operand. -/
  incomplete : (∃ f, standard.evaluate (Token.items ts) env.truth = .error f ∧
      f.kind = .incompleteExpression) ↔
    standard.validate (Token.items ts) = .ok () ∧ Balanced ts ∧ LacksOperand standard ts
  /-- Every other fault is that of the scan, and every fault of the scan is told. -/
  scanned : ∀ f, (standard.evaluate (Token.items ts) env.truth = .error f ∧
      f.kind ≠ .mismatchedParentheses ∧ f.kind ≠ .incompleteExpression) ↔
    standard.validate (Token.items ts) = .error f
  /-- No operator and no token is unknown. -/
  known : ∀ f, standard.evaluate (Token.items ts) env.truth = .error f →
    f.kind ≠ .unknownOperator ∧ f.kind ≠ .unknownToken

/-- Where no NOT stands behind the end of an operand, every expression is classified. -/
theorem evaluate_classified {ts : List Token} (hts : ∀ t ∈ ts, t ∈ standard.tokens)
    (hneg : ¬ NegatesBehind standard ts) (env : Environment) : Classified ts env := by
  have hv := Vocabulary.standard_conventional
  exact {
    derived := valued_iff hv hts hneg env.truth
    mismatched := mismatched_iff hv.toRanked hts env.truth
    incomplete := incomplete_iff hv hts hneg env.truth
    scanned := scanned_iff hv.toRanked hts env.truth
    known := fun f h => known_of_evaluate_error hv.toRanked hts h }

/-- The case of `( A && ) || B`, where the AND lacks its operand. -/
theorem evaluate_classified_lacking :
    ¬ NegatesBehind standard [.leftParen, .variable "A", standard.operator .and, .rightParen,
        standard.operator .or, .variable "B"] ∧
      ¬ ∃ e, Derives standard .disjunction [.leftParen, .variable "A", standard.operator .and,
        .rightParen, standard.operator .or, .variable "B"] e := by
  have hneg : ¬ NegatesBehind standard [.leftParen, .variable "A", standard.operator .and,
      .rightParen, standard.operator .or, .variable "B"] := by
    rintro ⟨a, -, hin⟩
    have hnot : standard.operator .not ∈ [Token.leftParen, .variable "A", standard.operator .and,
        .rightParen, standard.operator .or, .variable "B"] := hin.subset (by simp)
    exact absurd hnot (by decide)
  refine ⟨hneg, ?_⟩
  intro hd
  obtain ⟨b, hb⟩ := (evaluate_classified (by decide) hneg []).derived.mpr hd
  cases b <;> exact absurd hb (by decide)

end InfixLogic
