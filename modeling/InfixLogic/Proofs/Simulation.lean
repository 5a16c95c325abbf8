import Mathlib.Data.List.Forall2
import InfixLogic.Proofs.Machine
import InfixLogic.Proofs.Placing
import InfixLogic.Proofs.Variables

/- Two runs of the machine side by side.

   The machine is the same for every kind of value. If the values of two interpretations are
   related, and all they can do with their values keeps the relation (`Simulates`), then whole runs
   are related: both end in related values, or both fail with the same fault (`Simulates.run`).
   What the names stand for has to be related for the free variables among the tokens only, as
   nothing else is looked up; the tokens of a postfix form are those of its expression, so for an
   expression these are the variables that it uses (`Simulates.evaluate`).

   Two relations on truth values give two facts about evaluation. Equality: the value depends on
   the used variables alone (`evaluate_congr_used`). The relation that always holds: whether an
   evaluation fails, and with what fault, depends on no variable at all (`evaluate_error`). -/

namespace InfixLogic

/-- Two results that are alike: values that are related, or the same fault, told in the manner
of each side. -/
inductive Alike {ε δ α β : Type} (tell : Fault → ε) (tell' : Fault → δ) (R : α → β → Prop) :
    Except ε α → Except δ β → Prop where
  | ok {a : α} {b : β} (h : R a b) : Alike tell tell' R (.ok a) (.ok b)
  | fault (f : Fault) : Alike tell tell' R (.error (tell f)) (.error (tell' f))

/-- What one interpretation does with its values the other does with related ones. -/
structure Simulates {ε δ α β : Type} (I : Interpretation ε α) (J : Interpretation δ β)
    (R : α → β → Prop) : Prop where
  constant : ∀ b, R (I.constant b) (J.constant b)
  negate : ∀ {a b}, R a b → R (I.negate a) (J.negate b)
  conjoin : ∀ {a a' b b'}, R a b → R a' b' →
    Alike I.fault J.fault R (I.conjoin a a') (J.conjoin b b')
  disjoin : ∀ {a a' b b'}, R a b → R a' b' →
    Alike I.fault J.fault R (I.disjoin a a') (J.disjoin b b')

namespace Alike

variable {ε δ α β α' β' : Type} {tell : Fault → ε} {tell' : Fault → δ} {R : α → β → Prop}
  {S : α' → β' → Prop}

theorem bind {x : Except ε α} {y : Except δ β} {f : α → Except ε α'} {g : β → Except δ β'}
    (h : Alike tell tell' R x y) (hfg : ∀ {a b}, R a b → Alike tell tell' S (f a) (g b)) :
    Alike tell tell' S (x >>= f) (y >>= g) := by
  cases h with
  | ok hab => exact hfg hab
  | fault f => exact .fault f

theorem eq {x y : Except ε α} (h : Alike tell tell Eq x y) : x = y := by
  cases h with
  | ok h => exact congrArg Except.ok h
  | fault f => rfl

theorem of_ok {x : Except ε α} {y : Except δ β} (h : Alike tell tell' R x y) {a : α}
    (hx : x = .ok a) : ∃ b, y = .ok b ∧ R a b := by
  cases h with
  | ok h => exact ⟨_, rfl, Except.ok.inj hx ▸ h⟩
  | fault f => cases hx

theorem of_ok_right {x : Except ε α} {y : Except δ β} (h : Alike tell tell' R x y) {b : β}
    (hy : y = .ok b) : ∃ a, x = .ok a ∧ R a b := by
  cases h with
  | ok h => exact ⟨_, rfl, Except.ok.inj hy ▸ h⟩
  | fault f => cases hy

theorem of_error {x : Except Fault α} {y : Except δ β} (h : Alike (fun f => f) tell' R x y)
    {f : Fault} (hx : x = .error f) : y = .error (tell' f) := by
  cases h with
  | ok h => cases hx
  | fault g => exact congrArg (Except.error ∘ tell') (Except.error.inj hx)

theorem error_iff {x : Except Fault α} {y : Except δ β} (h : Alike (fun f => f) tell' R x y)
    {e : δ} : y = .error e ↔ ∃ f, e = tell' f ∧ x = .error f := by
  constructor
  · rintro rfl
    cases h with
    | fault f => exact ⟨f, rfl, rfl⟩
  · rintro ⟨f, rfl, hx⟩
    exact h.of_error hx

end Alike

namespace Simulates

variable {ε δ α β : Type} {I : Interpretation ε α} {J : Interpretation δ β} {R : α → β → Prop}
  {v : Vocabulary} {env : Text → α} {env' : Text → β} {stack : List α} {stack' : List β}

theorem apply (h : Simulates I J R) (i : Nat) (c : Connective)
    (hstack : List.Forall₂ R stack stack') :
    Alike I.fault J.fault (List.Forall₂ R) (I.apply i c stack) (J.apply i c stack') := by
  match c, hstack with
  | .not, .nil => exact .fault _
  | .not, .cons ha hs => exact .ok (.cons (h.negate ha) hs)
  | .and, .nil | .and, .cons _ .nil => exact .fault _
  | .and, .cons hb (.cons ha hs) => exact (h.conjoin ha hb).bind fun hc => .ok (.cons hc hs)
  | .or, .nil | .or, .cons _ .nil => exact .fault _
  | .or, .cons hb (.cons ha hs) => exact (h.disjoin ha hb).bind fun hc => .ok (.cons hc hs)

/-- A step looks a name up only if the token is a free variable. -/
theorem step (h : Simulates I J R) (i : Nat) {t : Token}
    (henv : v.isFree t = true → R (env t.name) (env' t.name))
    (hstack : List.Forall₂ R stack stack') :
    Alike I.fault J.fault (List.Forall₂ R) (v.step I env i (v.canonicalToken t) stack)
      (v.step J env' i (v.canonicalToken t) stack') := by
  cases t.role v with
  | value htag hdef =>
    rw [Vocabulary.step_value htag hdef, Vocabulary.step_value htag hdef]
    refine .ok (.cons ?_ hstack)
    rw [Interpretation.operand, Interpretation.operand, Vocabulary.canonicalToken_name]
    cases hval : (v.canonicalToken t).value with
    | some b => exact h.constant b
    | none => exact henv (Vocabulary.isFree_of_value_none htag hdef hval)
  | connective c hid =>
    rw [Vocabulary.step_connective hid, Vocabulary.step_connective hid]
    exact h.apply i c hstack
  | foreignOperand htag hdef =>
    rw [Vocabulary.step_foreignOperand htag hdef, Vocabulary.step_foreignOperand htag hdef]
    exact .fault _
  | other htag hid =>
    rw [Vocabulary.step_other htag hid, Vocabulary.step_other htag hid]
    exact .fault _

theorem runFrom (h : Simulates I J R) {ts : List Token}
    (henv : ∀ t ∈ ts, v.isFree t = true → R (env t.name) (env' t.name)) (i : Nat)
    (hstack : List.Forall₂ R stack stack') :
    Alike I.fault J.fault (List.Forall₂ R) (v.runFrom I env i stack (Token.items ts))
      (v.runFrom J env' i stack' (Token.items ts)) := by
  induction ts generalizing i stack stack' with
  | nil => exact .ok hstack
  | cons t ts ih =>
    exact (h.step i (henv t (by simp)) hstack).bind fun hm =>
      ih (fun u hu => henv u (by simp [hu])) (i + 1) hm

/-- Runs over one postfix form are alike. -/
theorem run (h : Simulates I J R) {ts : List Token}
    (henv : ∀ t ∈ ts, v.isFree t = true → R (env t.name) (env' t.name)) :
    Alike I.fault J.fault R (v.run I env (Token.items ts)) (v.run J env' (Token.items ts)) := by
  refine (h.runFrom henv 0 .nil).bind fun {stack stack'} hstack => ?_
  match hstack with
  | .nil => exact .fault _
  | .cons ha .nil => exact .ok ha
  | .cons _ (.cons _ hs) =>
    simp only [List.length_cons, hs.length_eq]
    exact .fault _

end Simulates

/-! ## Expressions -/

namespace Vocabulary

variable {v : Vocabulary} {items : List Item}

/-- An expression evaluated in values of any kind. -/
def evaluateIn {ε α : Type} (v : Vocabulary) (I : Interpretation ε α) (items : List Item)
    (env : Text → α) : Except ε α := do
  let ts ← (v.compile items).mapError I.fault
  v.run I env (Token.items ts)

theorem evaluateIn_truth (v : Vocabulary) (items : List Item) (env : Text → Bool) :
    v.evaluateIn .truth items env = v.evaluate items env := by
  rw [evaluateIn, evaluate]
  cases v.compile items <;> rfl

/-- The free variables of a postfix form are those that the expression uses. -/
theorem mem_usedVariables_of_compile {us : List Token} (h : v.compile items = .ok us) {t : Token}
    (ht : t ∈ us) (hfree : v.isFree t = true) : t.name ∈ v.usedVariables items := by
  obtain ⟨ts, rfl⟩ := tokens_of_compile h
  obtain ⟨⟨⟩, -, hpost⟩ := bind_ok.mp h
  have hmem := (toPostfix_perm hpost).mem_iff.mp ht
  obtain ⟨u, hu, rfl⟩ := List.mem_map.mp (List.mem_of_mem_filter hmem)
  rw [isFree_canonicalToken] at hfree
  rw [canonicalToken_name]
  exact mem_usedVariables.mpr ⟨u, List.mem_map_of_mem hu, hfree, rfl⟩

end Vocabulary

/-- Evaluations of one expression are alike if what its variables stand for is related. -/
theorem Simulates.evaluate {ε δ α β : Type} {I : Interpretation ε α} {J : Interpretation δ β}
    {R : α → β → Prop} (h : Simulates I J R) {v : Vocabulary} {items : List Item} {env : Text → α}
    {env' : Text → β} (henv : ∀ n ∈ v.usedVariables items, R (env n) (env' n)) :
    Alike I.fault J.fault R (v.evaluateIn I items env) (v.evaluateIn J items env') := by
  rw [Vocabulary.evaluateIn, Vocabulary.evaluateIn]
  cases hcompile : v.compile items with
  | error f => exact .fault f
  | ok us =>
    exact h.run fun t ht hfree =>
      henv _ (Vocabulary.mem_usedVariables_of_compile hcompile ht hfree)

/-! ## Truth values -/

theorem truth_simulates_eq : Simulates .truth .truth (Eq (α := Bool)) where
  constant _ := rfl
  negate h := congrArg (!·) h
  conjoin h h' := .ok (congrArg₂ (· && ·) h h')
  disjoin h h' := .ok (congrArg₂ (· || ·) h h')

theorem truth_simulates_any : Simulates .truth .truth fun _ _ : Bool => True where
  constant _ := trivial
  negate _ := trivial
  conjoin _ _ := .ok trivial
  disjoin _ _ := .ok trivial

namespace Vocabulary

variable {v : Vocabulary} {items : List Item}

/-- An evaluation looks at nothing but the used variables. -/
theorem evaluate_congr_used {env env' : Text → Bool}
    (h : ∀ n ∈ v.usedVariables items, env n = env' n) :
    v.evaluate items env = v.evaluate items env' := by
  have hlike := (truth_simulates_eq.evaluate h).eq
  rwa [evaluateIn_truth, evaluateIn_truth] at hlike

/-- An expression that fails in one environment fails in the same way in every other. -/
theorem evaluate_error {env : Text → Bool} {f : Fault} (h : v.evaluate items env = .error f)
    (env' : Text → Bool) : v.evaluate items env' = .error f := by
  rw [← evaluateIn_truth] at h ⊢
  exact (truth_simulates_any.evaluate fun _ _ => trivial).of_error h

/-- In every environment an expression has the value that a function gives for it. -/
def Denotes (v : Vocabulary) (items : List Item) (value : (Text → Bool) → Bool) : Prop :=
  ∀ env, v.evaluate items env = .ok (value env)

/-- A value depends on nothing but the used variables. -/
theorem Denotes.congr {value : (Text → Bool) → Bool} (h : v.Denotes items value)
    {env env' : Text → Bool} (henv : ∀ n ∈ v.usedVariables items, env n = env' n) :
    value env = value env' :=
  Except.ok.inj ((h env).symm.trans ((evaluate_congr_used henv).trans (h env')))

/-- An expression has a value in every environment, or fails in the same way in every one. -/
theorem denotes_or_fails (v : Vocabulary) (items : List Item) :
    (∃ value, v.Denotes items value) ∨ ∃ f, ∀ env, v.evaluate items env = .error f := by
  cases h : v.evaluate items fun _ => false with
  | error f => exact .inr ⟨f, evaluate_error h⟩
  | ok b =>
    have hok (env : Text → Bool) : ∃ c, v.evaluate items env = .ok c := by
      cases h' : v.evaluate items env with
      | error f => cases h.symm.trans (evaluate_error h' _)
      | ok c => exact ⟨c, rfl⟩
    exact .inl (Classical.skolem.mp hok)

end Vocabulary

end InfixLogic
