import InfixLogic.Proofs.Group
import InfixLogic.Proofs.Height
import InfixLogic.Proofs.Machine
import InfixLogic.Proofs.Postorder

/- Replacing a group by its value.

   The machine runs the postfix form of a group on top of whatever is on its stack, as it runs it
   on an empty one: a run that succeeds never looks below (`runFrom_above`), so it pushes the value
   of the group and nothing else. With what the scan and the conversion do with a group this says
   that only the value of a group counts for what stands around it (`kind_evaluate_around`). Two
   groups of one value can be put in each other's place, among any items at all: the value of the
   whole is the same, or the kind of its fault. Positions may differ, as the groups may be of
   different lengths.

   `group_replaced_by_value` states it for a group and the constant of its value, and for two
   groups that have the same value in every environment. -/

namespace InfixLogic

open Token (grouped)

/-! ## The machine -/

section Machine
variable {ε α : Type} {I : Interpretation ε α} {i : Nat} {stack stack' : List α}

theorem Interpretation.apply_above {c : Connective} (h : I.apply i c stack = .ok stack') (j : Nat)
    (below : List α) : I.apply j c (stack ++ below) = .ok (stack' ++ below) := by
  match c, stack, h with
  | .not, a :: stack, h =>
    obtain rfl := Except.ok.inj h
    rfl
  | .and, b :: a :: stack, h | .or, b :: a :: stack, h =>
    obtain ⟨c, hc, hs⟩ := bind_ok.mp h
    obtain rfl := Except.ok.inj hs
    exact bind_ok.mpr ⟨c, hc, rfl⟩

namespace Vocabulary

variable {v : Vocabulary} {env : Text → α}

theorem step_above {t : Token} (h : v.step I env i (v.canonicalToken t) stack = .ok stack')
    (j : Nat) (below : List α) :
    v.step I env j (v.canonicalToken t) (stack ++ below) = .ok (stack' ++ below) := by
  cases t.role v with
  | value htag hdef =>
    rw [step_value htag hdef] at h ⊢
    obtain rfl := Except.ok.inj h
    rfl
  | connective c hid =>
    rw [step_connective hid] at h ⊢
    exact Interpretation.apply_above h j below
  | foreignOperand htag hdef => cases (step_foreignOperand htag hdef i stack).symm.trans h
  | other htag hid => cases (step_other htag hid i stack).symm.trans h

theorem runFrom_append (v : Vocabulary) (I : Interpretation ε α) (env : Text → α) (i : Nat)
    (stack : List α) (ts us : List Token) :
    v.runFrom I env i stack (Token.items (ts ++ us)) =
      (v.runFrom I env i stack (Token.items ts)).bind fun stack =>
        v.runFrom I env (i + ts.length) stack (Token.items us) := by
  induction ts generalizing i stack with
  | nil => rfl
  | cons t ts ih =>
    simp only [Token.items, List.cons_append, List.map_cons, runFrom, canonical] at ih ⊢
    cases v.step I env i (v.canonicalToken t) stack with
    | error e => rfl
    | ok m =>
      refine (ih (i + 1) m).trans ?_
      rw [List.length_cons, Nat.add_right_comm i]
      rfl

/-- A run that succeeds looks at nothing that lies below, and leaves it there. -/
theorem runFrom_above {ts : List Token} (h : v.runFrom I env i stack (Token.items ts) = .ok stack')
    (j : Nat) (below : List α) :
    v.runFrom I env j (stack ++ below) (Token.items ts) = .ok (stack' ++ below) := by
  induction ts generalizing i j stack with
  | nil =>
    obtain rfl := Except.ok.inj h
    rfl
  | cons t ts ih =>
    obtain ⟨m, hs, hrun⟩ := bind_ok.mp h
    exact bind_ok.mpr ⟨m ++ below, step_above hs j below, ih hrun (j + 1)⟩

/-- In the middle of a run a postfix form with a value pushes the value. -/
theorem runFrom_around {us : List Token} {a : α} (h : v.run I env (Token.items us) = .ok a)
    (front back : List Token) :
    ∃ j, v.runFrom I env 0 [] (Token.items (front ++ us ++ back)) =
      (v.runFrom I env 0 [] (Token.items front)).bind fun stack =>
        v.runFrom I env j (a :: stack) (Token.items back) := by
  refine ⟨0 + front.length + us.length, ?_⟩
  rw [List.append_assoc, runFrom_append]
  congr 1
  funext stack
  rw [runFrom_append, show stack = [] ++ stack from rfl, runFrom_above (run_ok_iff.mp h)]
  rfl

end Vocabulary

end Machine

/-! ### Kinds of faults -/

namespace Vocabulary

variable {v : Vocabulary} {env : Text → Bool}

theorem kind_apply (i j : Nat) (c : Connective) (stack : List Bool) :
    (Interpretation.truth.apply i c stack).mapError Fault.kind =
      (Interpretation.truth.apply j c stack).mapError Fault.kind := by
  match c, stack with
  | .not, [] | .not, _ :: _ => rfl
  | .and, [] | .and, [_] | .and, _ :: _ :: _ => rfl
  | .or, [] | .or, [_] | .or, _ :: _ :: _ => rfl

/-- The kind of fault at a token does not depend on where it stands. -/
theorem kind_step (v : Vocabulary) (env : Text → Bool) (i j : Nat) (t : Token)
    (stack : List Bool) :
    (v.step .truth env i (v.canonicalToken t) stack).mapError Fault.kind =
      (v.step .truth env j (v.canonicalToken t) stack).mapError Fault.kind := by
  cases t.role v with
  | value htag hdef => rw [step_value htag hdef, step_value htag hdef]
  | connective c hid =>
    rw [step_connective hid, step_connective hid]
    exact kind_apply i j c stack
  | foreignOperand htag hdef =>
    rw [step_foreignOperand htag hdef, step_foreignOperand htag hdef]
    rfl
  | other htag hid =>
    rw [step_other htag hid, step_other htag hid]
    rfl

theorem kind_runFrom (v : Vocabulary) (env : Text → Bool) (i j : Nat) (stack : List Bool)
    (ts : List Token) :
    (v.runFrom .truth env i stack (Token.items ts)).mapError Fault.kind =
      (v.runFrom .truth env j stack (Token.items ts)).mapError Fault.kind := by
  induction ts generalizing i j stack with
  | nil => rfl
  | cons t ts ih =>
    exact told_bind (kind_step v env i j _ stack) fun m => ih (i + 1) (j + 1) m

/-- Around postfix forms of one value a run ends in the same value or the same kind of fault. -/
theorem kind_run_around {us ws : List Token} {b : Bool}
    (hus : v.run .truth env (Token.items us) = .ok b)
    (hws : v.run .truth env (Token.items ws) = .ok b) (front back : List Token) :
    (v.run .truth env (Token.items (front ++ us ++ back))).mapError Fault.kind =
      (v.run .truth env (Token.items (front ++ ws ++ back))).mapError Fault.kind := by
  obtain ⟨i, hi⟩ := runFrom_around hus front back
  obtain ⟨j, hj⟩ := runFrom_around hws front back
  rw [run, run, hi, hj]
  refine told_bind ?_ fun _ => rfl
  exact told_bind rfl fun stack => kind_runFrom v env i j (b :: stack) back

/-! ## Evaluation -/

/-- An expression with a value is closed, and its postfix form has that value. -/
theorem evaluate_ok {ts : List Token} {b : Bool} (h : v.evaluate (Token.items ts) env = .ok b) :
    Closed v ts ∧ ∃ us, v.toPostfix (Token.items ts) = .ok us ∧
      v.run .truth env (Token.items us) = .ok b := by
  obtain ⟨us, hcompile, hrun⟩ := bind_ok.mp h
  obtain ⟨⟨⟩, hval, hpost⟩ := bind_ok.mp hcompile
  exact ⟨⟨hval, (v.toPostfix_ok_iff_balanced ts).mp ⟨us, hpost⟩⟩, us, hpost, hrun⟩

/-- Around groups of one value an evaluation ends in the same value or the same kind of fault. -/
theorem kind_evaluate_around (hv : v.Ranked) {es fs : List Token} {b : Bool}
    (he : v.evaluate (Token.items es) env = .ok b) (hf : v.evaluate (Token.items fs) env = .ok b)
    (xs ys : List Token) :
    (v.evaluate (Token.items (xs ++ grouped es ++ ys)) env).mapError Fault.kind =
      (v.evaluate (Token.items (xs ++ grouped fs ++ ys)) env).mapError Fault.kind := by
  obtain ⟨hce, us, hus, hrune⟩ := evaluate_ok he
  obtain ⟨hcf, ws, hws, hrunf⟩ := evaluate_ok hf
  simp only [evaluate, compile, bind_assoc]
  refine told_bind (kind_validate_around hv hce hcf xs ys) fun _ => ?_
  rcases toPostfix_around hv xs ys with ⟨front, back, hpost⟩ | hfail
  · rw [hpost hus, hpost hws]
    exact kind_run_around hrune hrunf front back
  · obtain ⟨f, hf⟩ := hfail hus
    obtain ⟨g, hg⟩ := hfail hws
    rw [hf, hg]
    exact congrArg Except.error
      ((kind_of_toPostfix_error hf).trans (kind_of_toPostfix_error hg).symm)

end Vocabulary

/-- Outcomes agree if the evaluations end in the same value or the same kind of fault. -/
theorem Outcome.same_ofExcept {x y : Except Fault Bool}
    (h : x.mapError Fault.kind = y.mapError Fault.kind) :
    (Outcome.ofExcept x).same (Outcome.ofExcept y) = true := by
  cases x with
  | error f =>
    cases y with
    | error g => simpa [Outcome.ofExcept, Outcome.same, Fault.report] using Except.error.inj h
    | ok b => cases h
  | ok b =>
    cases y with
    | error g => cases h
    | ok c => simpa [Outcome.ofExcept, Outcome.same] using Except.ok.inj h

/-! ## Items -/

/-- Items between parentheses. -/
def Item.grouped (items : List Item) : List Item :=
  .token .leftParen :: (items ++ [.token .rightParen])

/-- The constant of a truth value. -/
def Token.ofBool (b : Bool) : Token :=
  if b then .constant "TRUE" true else .constant "FALSE" false

namespace Vocabulary

variable {v : Vocabulary} {env : Environment}

theorem outcome_eq_success {items : List Item} {b : Bool} :
    v.outcome items env = .success b ↔ v.evaluate items env.truth = .ok b := by
  rw [outcome]
  cases v.evaluate items env.truth <;> simp [Outcome.ofExcept]

/-- Only tokens have a value. -/
theorem tokens_of_evaluate {items : List Item} {env : Text → Bool} {b : Bool}
    (h : v.evaluate items env = .ok b) : ∃ ts, items = Token.items ts := by
  obtain ⟨us, hcompile, -⟩ := bind_ok.mp h
  exact tokens_of_compile hcompile

/-- The first item that is no token decides, whatever stands behind it. -/
theorem evaluate_append_of_foreign {X : List Item} {f : Fault} (h : X.mapM v.canonical = .error f)
    (Z : List Item) (env : Text → Bool) : v.evaluate (X ++ Z) env = .error f := by
  apply evaluate_of_foreign
  rw [List.mapM_append, h]
  rfl

theorem evaluate_tokens_append_of_foreign (ts : List Token) {Y : List Item} {f : Fault}
    (h : Y.mapM v.canonical = .error f) (env : Text → Bool) :
    v.evaluate (Token.items ts ++ Y) env = .error f := by
  apply evaluate_of_foreign
  rw [List.mapM_append, mapM_canonical_items, h]
  rfl

/-- Around groups of one value outcomes agree, whatever the items are that stand there. -/
theorem same_outcome_around (hv : v.Ranked) {E F : List Item} {b : Bool}
    (hE : v.outcome E env = .success b) (hF : v.outcome F env = .success b) (X Y : List Item) :
    (v.outcome (X ++ Item.grouped E ++ Y) env).same (v.outcome (X ++ Item.grouped F ++ Y) env) =
      true := by
  rw [outcome_eq_success] at hE hF
  obtain ⟨es, rfl⟩ := tokens_of_evaluate hE
  obtain ⟨fs, rfl⟩ := tokens_of_evaluate hF
  have hgroup (ts : List Token) : Item.grouped (Token.items ts) = Token.items (grouped ts) := by
    simp [Item.grouped, Token.items, grouped]
  have happend (ts us : List Token) : Token.items ts ++ Token.items us = Token.items (ts ++ us) :=
    List.map_append.symm
  apply Outcome.same_ofExcept
  rw [hgroup, hgroup]
  rcases v.mapM_canonical_cases X with ⟨xs, rfl⟩ | ⟨f, hX⟩
  · rw [happend, happend]
    rcases v.mapM_canonical_cases Y with ⟨ys, rfl⟩ | ⟨f, hY⟩
    · rw [happend, happend]
      exact kind_evaluate_around hv hE hF xs ys
    · rw [evaluate_tokens_append_of_foreign _ hY, evaluate_tokens_append_of_foreign _ hY]
  · rw [List.append_assoc, List.append_assoc, evaluate_append_of_foreign hX,
      evaluate_append_of_foreign hX]

end Vocabulary

/-! ## The standard vocabulary -/

open Vocabulary (standard)

theorem outcome_ofBool (env : Environment) (b : Bool) :
    standard.outcome [.token (.ofBool b)] env = .success b := by
  have hmem : Token.ofBool b ∈ standard.operands := by cases b <;> decide
  have h := (Derives.operand hmem).atom.negation.conjunction.evaluate
    Vocabulary.standard_conventional env.truth
  rw [Vocabulary.outcome_eq_success]
  refine Eq.trans h ?_
  cases b <;> rfl

/-- Among any items a group can be replaced by the constant of its value, and by every group that
has the same value in every environment: the whole has the same value, or a fault of the same
kind. -/
theorem group_replaced_by_value {E : List Item} :
    (∀ env b, standard.outcome E env = .success b → ∀ X Y : List Item,
      (standard.outcome (X ++ Item.grouped E ++ Y) env).same
        (standard.outcome (X ++ Item.grouped [.token (.ofBool b)] ++ Y) env) = true) ∧
    ∀ F, (∀ env, ∃ b, standard.outcome E env = .success b ∧ standard.outcome F env = .success b) →
      ∀ (X Y : List Item) (env : Environment),
        (standard.outcome (X ++ Item.grouped E ++ Y) env).same
          (standard.outcome (X ++ Item.grouped F ++ Y) env) = true := by
  have hv := Vocabulary.standard_conventional.toRanked
  refine ⟨fun env b hE X Y => ?_, fun F hagree X Y env => ?_⟩
  · exact Vocabulary.same_outcome_around hv hE (outcome_ofBool env b) X Y
  · obtain ⟨b, hE, hF⟩ := hagree env
    exact Vocabulary.same_outcome_around hv hE hF X Y

/-- The cases of `! ( A ! ) && X`, whose group has a value though the grammar does not derive it,
and whose last item is an operand that the vocabulary does not have, and of `( A ) )` against
`( ! ! A ) )`, where a parenthesis is left over. -/
theorem group_replaced_by_value_underived :
    standard.outcome (Token.items [.variable "A", standard.operator .not]) [("A", .bool true)] =
        .success false ∧
      (standard.outcome ([.token (standard.operator .not)] ++
          Item.grouped (Token.items [.variable "A", standard.operator .not]) ++
          [.token (standard.operator .and), .token (.variable "X")]) [("A", .bool true)]).same
        (standard.outcome ([.token (standard.operator .not)] ++
          Item.grouped [.token (.ofBool false)] ++
          [.token (standard.operator .and), .token (.variable "X")]) [("A", .bool true)]) =
        true ∧
      (standard.outcome ([] ++ Item.grouped [.token (.variable "A")] ++ [.token .rightParen])
          []).same
        (standard.outcome ([] ++ Item.grouped (Token.items
          [standard.operator .not, standard.operator .not, .variable "A"]) ++
          [.token .rightParen]) []) = true := by
  have h : standard.outcome (Token.items [.variable "A", standard.operator .not])
      [("A", .bool true)] = .success false := by decide
  have hagree (env : Environment) : ∃ b,
      standard.outcome [.token (.variable "A")] env = .success b ∧
        standard.outcome (Token.items
          [standard.operator .not, standard.operator .not, .variable "A"]) env = .success b :=
    ⟨env.truth "A", rfl, congrArg Outcome.success (Bool.not_not _)⟩
  exact ⟨h, group_replaced_by_value.1 _ _ h _ _, group_replaced_by_value.2 _ hagree _ _ _⟩

end InfixLogic
