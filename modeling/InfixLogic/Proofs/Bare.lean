import InfixLogic.Proofs.Conversion

/- What the stages look at in a token.

   `Token.bare` leaves of a token its tag and its name, and of an operator its arity, its
   precedence and its grouping. The scan says the same of bare tokens, and the conversion
   commutes with baring: `checkFrom_bare` and `run_bare` go token by token, `validate_congr` and
   `toPostfix_congr` are what follows for whole expressions. The machine looks at less: of tokens
   that share tag and name it tells the same, and in the environment it looks up free variables
   alone (`run_congr`).

   Together: expressions whose canonical tokens bare are the same have the same outcome in
   environments that agree on the free variables (`outcome_congr`). Outcomes are compared as they
   are told. A fault of an unknown operator keeps the whole token, but its report does not. -/

namespace InfixLogic

namespace Token

/-- A token with nothing in it that every stage looks past. -/
def bare (t : Token) : Token :=
  if t.isOperator then { t with symbol := none, value := none } else plain t.tag t.name

@[simp] theorem bare_identity (t : Token) : t.bare.identity = t.identity := by
  unfold bare
  split <;> rfl

@[simp] theorem bare_tag (t : Token) : t.bare.tag = t.tag := congrArg Prod.fst t.bare_identity

@[simp] theorem bare_name (t : Token) : t.bare.name = t.name := congrArg Prod.snd t.bare_identity

@[simp] theorem bare_isOperand (t : Token) : t.bare.isOperand = t.isOperand := by simp [isOperand]

@[simp] theorem bare_isOperator (t : Token) : t.bare.isOperator = t.isOperator := by
  simp [isOperator]

@[simp] theorem bare_opensOperand (t : Token) : t.bare.opensOperand = t.opensOperand := by
  simp [opensOperand]

@[simp] theorem bare_closesOperand (t : Token) : t.bare.closesOperand = t.closesOperand := by
  simp [closesOperand]

theorem bare_of_operator {t : Token} (h : t.tag = .operator) :
    t.bare = { t with symbol := none, value := none } :=
  if_pos (by simp [isOperator, h])

theorem bare_of_not_operator {t : Token} (h : t.tag ≠ .operator) : t.bare = plain t.tag t.name :=
  if_neg (by simp [isOperator, h])

@[simp] theorem bare_isBinary (t : Token) : t.bare.isBinary = t.isBinary := by
  by_cases h : t.tag = .operator
  · simp [isBinary, isOperator, bare_of_operator h]
  · simp [isBinary, isOperator, beq_eq_false_iff_ne.mpr h]

end Token

open Token (bare)

/-! ## The scan -/

namespace Vocabulary

variable {v : Vocabulary}

@[simp] theorem defines_bare (v : Vocabulary) (t : Token) : v.defines t.bare = v.defines t :=
  defines_congr t.bare_identity

theorem checkToken_bare (v : Vocabulary) (previous : Option Token) (i : Nat) (t : Token)
    (next : Option Token) :
    v.checkToken (previous.map bare) i t.bare (next.map bare) =
      v.checkToken previous i t next := by
  have hbinary : checkBinary (previous.map bare) i t.bare (next.map bare) =
      checkBinary previous i t next := by
    unfold checkBinary
    cases previous <;> cases next <;> simp
  unfold checkToken
  rw [hbinary]
  simp [checkOperand, checkSeparated, checkGroup, checkNegation, Option.any_map]

theorem checkFrom_bare (v : Vocabulary) (previous : Option Token) (i : Nat) (ts : List Token) :
    v.checkFrom (previous.map bare) i (ts.map bare) = v.checkFrom previous i ts := by
  induction ts generalizing previous i with
  | nil => rfl
  | cons t ts ih =>
    rw [List.map_cons, checkFrom, checkFrom, List.head?_map, checkToken_bare]
    exact congrArg _ (funext fun _ => ih (some t) (i + 1))

/-- The check says the same of expressions whose canonical tokens bare are the same. -/
theorem validate_congr {ts us : List Token}
    (h : (ts.map v.canonicalToken).map bare = (us.map v.canonicalToken).map bare) :
    v.validate (Token.items ts) = v.validate (Token.items us) := by
  have hempty : ts = [] ↔ us = [] := by
    rw [← List.length_eq_zero_iff, ← List.length_eq_zero_iff]
    simpa using congrArg (fun l => List.length l = 0) h
  rw [validate_items, validate_items, if_congr hempty rfl rfl, ← checkFrom_bare v none, h]
  exact if_congr Iff.rfl rfl (checkFrom_bare v none 0 _)

end Vocabulary

/-! ## The conversion -/

namespace Conversion

/-- A conversion of bare tokens. -/
def bared (s : Conversion) : Conversion := ⟨s.output.map bare, s.stack.map bare⟩

theorem yields_bare {current : Token} (h : current.tag = .operator) (top : Token) :
    yields current.bare top.bare = yields current top := by
  by_cases htop : top.tag = .operator
  · simp [yields, Token.bare_of_operator h, Token.bare_of_operator htop]
  · simp [yields, beq_eq_false_iff_ne.mpr htop]

theorem release_bare {current : Token} (h : current.tag = .operator)
    (output stack : List Token) :
    release current.bare (output.map bare) (stack.map bare) =
      (release current output stack).bared := by
  induction stack generalizing output with
  | nil => rfl
  | cons top stack ih =>
    rw [List.map_cons, release, release, yields_bare h]
    split
    · exact ih (top :: output)
    · rfl

theorem close?_bare (output stack : List Token) :
    close? (output.map bare) (stack.map bare) = (close? output stack).map bared := by
  induction stack generalizing output with
  | nil => rfl
  | cons top stack ih =>
    rw [List.map_cons, close?, close?, Token.bare_tag]
    split
    · rfl
    · exact ih (top :: output)

theorem finish?_bare (output stack : List Token) :
    finish? (output.map bare) (stack.map bare) = (finish? output stack).map (List.map bare) := by
  induction stack generalizing output with
  | nil => simp [finish?]
  | cons top stack ih =>
    rw [List.map_cons, finish?, finish?, Token.bare_tag]
    split
    · rfl
    · exact ih (top :: output)

theorem step_bare (i : Nat) (t : Token) (s : Conversion) :
    s.bared.step i t.bare = (s.step i t).map bared := by
  cases htag : t.tag with
  | operand => simp [step, htag, bared, Except.map]
  | operator =>
    have := release_bare htag s.output s.stack
    simp [step, htag, bared, Except.map, this]
  | leftParen => simp [step, htag, bared, Except.map]
  | rightParen =>
    simp only [step, Token.bare_tag, htag]
    rw [show close? s.bared.output s.bared.stack = _ from close?_bare s.output s.stack]
    cases close? s.output s.stack <;> rfl

/-- A run of bare tokens is the run of the tokens, bare. -/
theorem run_bare (i : Nat) (s : Conversion) (ts : List Token) :
    run i s.bared (ts.map bare) = (run i s ts).map bared := by
  induction ts generalizing i s with
  | nil => rfl
  | cons t ts ih =>
    rw [List.map_cons, run, run, step_bare]
    cases s.step i t with
    | error f => rfl
    | ok m => exact ih (i + 1) m

end Conversion

namespace Vocabulary

variable {v : Vocabulary}

/-- The postfix form, bare, is a function of the bare canonical tokens. -/
theorem toPostfix_bare (v : Vocabulary) (ts : List Token) :
    (v.toPostfix (Token.items ts)).map (List.map bare) =
      (Conversion.run 0 .start ((ts.map v.canonicalToken).map bare)).bind fun s =>
        (Conversion.finish? s.output s.stack).elim (.error .unmatchedOpening) .ok := by
  rw [toPostfix_items, show Conversion.start = Conversion.start.bared from rfl,
    Conversion.run_bare, show Conversion.start.bared = Conversion.start from rfl]
  cases Conversion.run 0 .start (ts.map v.canonicalToken) with
  | error f => rfl
  | ok s =>
    show Except.map _ (Option.elim (Conversion.finish? s.output s.stack) _ _) =
      Option.elim (Conversion.finish? (s.output.map bare) (s.stack.map bare)) _ _
    rw [Conversion.finish?_bare]
    cases Conversion.finish? s.output s.stack <;> rfl

/-- The conversion gives the same bare tokens, or fails in the same way, for expressions whose
canonical tokens bare are the same. -/
theorem toPostfix_congr {ts us : List Token}
    (h : (ts.map v.canonicalToken).map bare = (us.map v.canonicalToken).map bare) :
    (v.toPostfix (Token.items ts)).map (List.map bare) =
      (v.toPostfix (Token.items us)).map (List.map bare) := by
  rw [toPostfix_bare, toPostfix_bare, h]

/-! ## The machine -/

variable {env env' : Text → Bool}

/-- Among tokens that share tag and name a step tells the same. -/
theorem step_congr (henv : ∀ n ∈ v.freeVariables, env n = env' n) {a b : Token}
    (h : a.identity = b.identity) (i : Nat) (stack : List Bool) :
    (v.step .truth env i (v.canonicalToken a) stack).mapError Fault.report =
      (v.step .truth env' i (v.canonicalToken b) stack).mapError Fault.report := by
  obtain ⟨htag, hname⟩ := Prod.mk.inj h
  cases ha : a.tag with
  | operand =>
    have hb : b.tag = .operand := htag.symm.trans ha
    cases hdef : v.defines a with
    | false => simp [step, ha, hb, hname, hdef, (defines_congr h).symm.trans hdef, Except.mapError]
    | true =>
      rw [← canonicalToken_congr h hdef]
      cases hval : (v.canonicalToken a).value with
      | some b => simp [step, ha, hdef, hval]
      | none => simp [step, ha, hdef, hval, henv _ (name_mem_freeVariables ha hdef hval)]
  | operator =>
    have hb : b.tag = .operator := htag.symm.trans ha
    cases hc : Connective.ofName? a.name <;>
      simp [step, ha, hb, ← hname, hc, Except.mapError, Fault.report, Fault.kind, Fault.position,
        Fault.detail, Interpretation.truth]
  | _ =>
    have hb := htag.symm.trans ha
    simp [step, ha, hb, Except.mapError, Fault.report, Fault.kind, Fault.position, Fault.detail,
      Interpretation.truth]

/-- Of lists of tokens that share tags and names the machine tells the same. -/
theorem runFrom_congr (henv : ∀ n ∈ v.freeVariables, env n = env' n) {ts us : List Token}
    (h : ts.map Token.identity = us.map Token.identity) (i : Nat) (stack : List Bool) :
    (v.runFrom .truth env i stack (Token.items ts)).mapError Fault.report =
      (v.runFrom .truth env' i stack (Token.items us)).mapError Fault.report := by
  induction ts generalizing us i stack with
  | nil =>
    obtain rfl : us = [] := List.map_eq_nil_iff.mp h.symm
    rfl
  | cons t ts ih =>
    obtain ⟨u, us, rfl, hu, hus⟩ := List.map_eq_cons_iff.mp h.symm
    simp only [Token.items, List.map_cons, runFrom, canonical]
    exact told_bind (step_congr henv hu.symm i stack) fun m => ih hus.symm (i + 1) m

theorem run_congr (henv : ∀ n ∈ v.freeVariables, env n = env' n) {ts us : List Token}
    (h : ts.map Token.identity = us.map Token.identity) :
    (v.run .truth env (Token.items ts)).mapError Fault.report =
      (v.run .truth env' (Token.items us)).mapError Fault.report := by
  rw [run, run]
  exact told_bind (runFrom_congr henv h 0 []) fun _ => rfl

/-! ## Evaluation -/

/-- Expressions whose canonical tokens bare are the same evaluate to the same. -/
theorem evaluate_congr (henv : ∀ n ∈ v.freeVariables, env n = env' n) {ts us : List Token}
    (h : (ts.map v.canonicalToken).map bare = (us.map v.canonicalToken).map bare) :
    (v.evaluate (Token.items ts) env).mapError Fault.report =
      (v.evaluate (Token.items us) env').mapError Fault.report := by
  have hpost := toPostfix_congr h
  rw [evaluate, evaluate, compile, compile, validate_congr h]
  cases v.validate (Token.items us) with
  | error f => rfl
  | ok =>
    show (v.toPostfix (Token.items ts) >>= _).mapError _ =
      (v.toPostfix (Token.items us) >>= _).mapError _
    cases ht : v.toPostfix (Token.items ts) with
    | error f =>
      cases hu : v.toPostfix (Token.items us) with
      | error g =>
        rw [ht, hu] at hpost
        obtain rfl : f = g := Except.error.inj hpost
        rfl
      | ok ws => rw [ht, hu] at hpost; cases hpost
    | ok xs =>
      cases hu : v.toPostfix (Token.items us) with
      | error g => rw [ht, hu] at hpost; cases hpost
      | ok ws =>
        rw [ht, hu] at hpost
        refine run_congr henv ?_
        have := congrArg (List.map Token.identity) (Except.ok.inj hpost)
        simpa [Function.comp_def] using this

end Vocabulary

theorem Outcome.ofExcept_congr {x y : Except Fault Bool}
    (h : x.mapError Fault.report = y.mapError Fault.report) :
    Outcome.ofExcept x = Outcome.ofExcept y := by
  cases x with
  | error f =>
    cases y with
    | error g => exact congrArg Outcome.failure (Except.error.inj h)
    | ok b => cases h
  | ok b =>
    cases y with
    | error g => cases h
    | ok c => exact congrArg Outcome.success (Except.ok.inj h)

/-- Canonical tokens bare and the truth of the free variables say everything about an outcome. -/
theorem Vocabulary.outcome_congr {v : Vocabulary} {ts us : List Token} {env env' : Environment}
    (h : (ts.map v.canonicalToken).map bare = (us.map v.canonicalToken).map bare)
    (henv : ∀ n ∈ v.freeVariables, env.truth n = env'.truth n) :
    v.outcome (Token.items ts) env = v.outcome (Token.items us) env' :=
  Outcome.ofExcept_congr (evaluate_congr henv h)

end InfixLogic
