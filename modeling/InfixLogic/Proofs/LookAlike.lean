import InfixLogic.Cache
import InfixLogic.TruthTable.Query
import InfixLogic.Proofs.Conversion
import InfixLogic.Proofs.Transport

/- Look-alikes of the vocabulary.

   A token of the vocabulary is known by its tag and its name. A token that shares both may have any
   other metadata: a NOT of arity two, a TRUE with the value false. What is proved is that such
   look-alikes cannot be told from each other (`metadata_ignored`).

   Every entry point puts the canonical token in the place of what it is given before it reads
   metadata. `SeesCanonical f` says so of a function of expressions: it does not change if all the
   tokens are replaced by their canonical ones first. The stages have this property one by one, and
   whatever is built from them inherits it. Look-alikes have the same canonical tokens, so a
   function of that kind gives the same for both (`SeesCanonical.congr`). -/

namespace InfixLogic

namespace Vocabulary

variable {v : Vocabulary} {ts us : List Token}

/-- Two tokens of one tag and name, which are in the vocabulary. Nothing is said of their other
metadata. -/
structure LookAlike (v : Vocabulary) (t u : Token) : Prop where
  defined : v.defines t = true
  identity : t.identity = u.identity

/-- Look-alikes have the same canonical tokens. -/
theorem map_canonicalToken_congr (h : List.Forall₂ v.LookAlike ts us) :
    ts.map v.canonicalToken = us.map v.canonicalToken := by
  induction h with
  | nil => rfl
  | cons hlike _ ih =>
    rw [List.map_cons, List.map_cons, ih, canonicalToken_congr hlike.identity hlike.defined]

/-- A function of expressions that sees no more of their tokens than the canonical ones. -/
def SeesCanonical (v : Vocabulary) {γ : Type} (f : List Item → γ) : Prop :=
  ∀ ts : List Token, f (Token.items (ts.map v.canonicalToken)) = f (Token.items ts)

theorem SeesCanonical.congr {γ : Type} {f : List Item → γ} (hf : v.SeesCanonical f)
    (h : ts.map v.canonicalToken = us.map v.canonicalToken) :
    f (Token.items ts) = f (Token.items us) := by
  rw [← hf ts, h, hf us]

theorem map_canonicalToken_twice (v : Vocabulary) (ts : List Token) :
    (ts.map v.canonicalToken).map v.canonicalToken = ts.map v.canonicalToken := by
  rw [List.map_map]
  exact List.map_congr_left fun t _ => canonicalToken_canonicalToken v t

/-! ## The stages -/

theorem seesCanonical_validate (v : Vocabulary) : v.SeesCanonical v.validate := by
  intro ts
  rw [validate_items, validate_items, map_canonicalToken_twice]
  exact if_congr List.map_eq_nil_iff rfl rfl

theorem seesCanonical_toPostfix (v : Vocabulary) : v.SeesCanonical v.toPostfix := by
  intro ts
  rw [toPostfix_items, toPostfix_items, map_canonicalToken_twice]

theorem seesCanonical_compile (v : Vocabulary) : v.SeesCanonical v.compile := by
  intro ts
  rw [compile, compile, v.seesCanonical_validate ts, v.seesCanonical_toPostfix ts]

section
variable {ε α : Type} (I : Interpretation ε α) (env : Text → α)

theorem runFrom_map_canonicalToken (v : Vocabulary) (i : Nat) (stack : List α)
    (ts : List Token) :
    v.runFrom I env i stack (Token.items (ts.map v.canonicalToken)) =
      v.runFrom I env i stack (Token.items ts) := by
  induction ts generalizing i stack with
  | nil => rfl
  | cons t ts ih =>
    simp only [Token.items, List.map_cons, runFrom, canonical, canonicalToken_canonicalToken]
    exact congrArg _ (funext fun m => ih (i + 1) m)

theorem seesCanonical_run (v : Vocabulary) : v.SeesCanonical (v.run I env) := by
  intro ts
  rw [run, run, runFrom_map_canonicalToken]

end

/-! ## What is built from the stages -/

theorem seesCanonical_evaluate (v : Vocabulary) : v.SeesCanonical v.evaluate := by
  intro ts
  funext env
  rw [evaluate, evaluate, v.seesCanonical_compile ts]

theorem seesCanonical_outcome (v : Vocabulary) (env : Environment) :
    v.SeesCanonical fun items => v.outcome items env :=
  fun ts => congrArg Outcome.ofExcept (congrFun (v.seesCanonical_evaluate ts) env.truth)

theorem seesCanonical_usedVariables (v : Vocabulary) : v.SeesCanonical v.usedVariables := by
  intro ts
  simp only [usedVariables, Token.items, List.filterMap_map]
  congr 2
  funext t
  simp [freeName?]

theorem seesCanonical_format (v : Vocabulary) : v.SeesCanonical v.format := by
  intro ts
  simp only [format, Token.items, List.map_map]
  congr 2
  funext t
  simp [label]

theorem seesCanonical_dump (v : Vocabulary) : v.SeesCanonical v.dump := by
  intro ts
  rw [dump_items, dump_items, List.map_map]
  congr 3
  exact List.map_congr_left fun t _ => encode_canonicalToken v t

theorem seesCanonical_truthTable (v : Vocabulary) : v.SeesCanonical v.truthTable := by
  intro ts
  have hrow (assignment : List (Text × Bool)) :
      v.row (Token.items (ts.map v.canonicalToken)) assignment =
        v.row (Token.items ts) assignment := by
    rw [row, row, v.seesCanonical_evaluate ts]
  simp only [truthTable, v.seesCanonical_usedVariables ts, hrow]

theorem seesCanonical_evaluateColumns (v : Vocabulary) : v.SeesCanonical v.evaluateColumns := by
  intro ts
  funext names
  rw [evaluateColumns, evaluateColumns, v.seesCanonical_compile ts]

theorem seesCanonical_isTautology (v : Vocabulary) : v.SeesCanonical v.isTautology := by
  intro ts
  rw [isTautology, isTautology, v.seesCanonical_usedVariables ts,
    v.seesCanonical_evaluateColumns ts]

theorem seesCanonical_isSatisfiable (v : Vocabulary) : v.SeesCanonical v.isSatisfiable := by
  intro ts
  rw [isSatisfiable, isSatisfiable, v.seesCanonical_usedVariables ts,
    v.seesCanonical_evaluateColumns ts]

theorem seesCanonical_areEquivalent_left (v : Vocabulary) (right : List Item) :
    v.SeesCanonical fun left => v.areEquivalent left right := by
  intro ts
  simp only [areEquivalent]
  rw [v.seesCanonical_usedVariables ts, v.seesCanonical_evaluateColumns ts]

theorem seesCanonical_areEquivalent_right (v : Vocabulary) (left : List Item) :
    v.SeesCanonical fun right => v.areEquivalent left right := by
  intro ts
  simp only [areEquivalent]
  rw [v.seesCanonical_usedVariables ts, v.seesCanonical_evaluateColumns ts]

/-- The key of a request in a cache is made of canonical tokens. -/
theorem seesCanonical_request (v : Vocabulary) (c : Cache) (env : Environment) :
    v.SeesCanonical fun items => v.request c items env := by
  intro ts
  have hkey : v.cacheKey (Token.items (ts.map v.canonicalToken)) env =
      v.cacheKey (Token.items ts) env := by
    rw [cacheKey, cacheKey, mapM_canonical_items, mapM_canonical_items, map_canonicalToken_twice]
  simp only [request, hkey, v.seesCanonical_outcome env ts]

end Vocabulary

open Vocabulary (standard)

/-- Expressions that are look-alikes of each other, token by token, cannot be told apart: they pass
the scan or fail it with one fault, convert to one postfix form and run to one result in values of
every kind, they evaluate alike, with a cache and without, use the same variables, are written as
one text and one document, and have the same truth table, columns and answers to queries. -/
theorem metadata_ignored {v : Vocabulary} {ts us : List Token}
    (h : List.Forall₂ v.LookAlike ts us) :
    v.validate (Token.items ts) = v.validate (Token.items us) ∧
      v.toPostfix (Token.items ts) = v.toPostfix (Token.items us) ∧
      (∀ {ε α : Type} (I : Interpretation ε α) (env : Text → α),
        v.run I env (Token.items ts) = v.run I env (Token.items us)) ∧
      (∀ env, v.evaluate (Token.items ts) env = v.evaluate (Token.items us) env) ∧
      (∀ c env, v.request c (Token.items ts) env = v.request c (Token.items us) env) ∧
      v.usedVariables (Token.items ts) = v.usedVariables (Token.items us) ∧
      v.format (Token.items ts) = v.format (Token.items us) ∧
      v.dump (Token.items ts) = v.dump (Token.items us) ∧
      v.truthTable (Token.items ts) = v.truthTable (Token.items us) ∧
      (∀ names, v.evaluateColumns (Token.items ts) names =
        v.evaluateColumns (Token.items us) names) ∧
      v.isTautology (Token.items ts) = v.isTautology (Token.items us) ∧
      v.isSatisfiable (Token.items ts) = v.isSatisfiable (Token.items us) ∧
      ∀ {ts' us' : List Token}, List.Forall₂ v.LookAlike ts' us' →
        v.areEquivalent (Token.items ts) (Token.items ts') =
          v.areEquivalent (Token.items us) (Token.items us') := by
  have hsame := Vocabulary.map_canonicalToken_congr h
  refine ⟨v.seesCanonical_validate.congr hsame, v.seesCanonical_toPostfix.congr hsame,
    fun I env => (v.seesCanonical_run I env).congr hsame,
    congrFun (v.seesCanonical_evaluate.congr hsame),
    fun c env => (v.seesCanonical_request c env).congr hsame,
    v.seesCanonical_usedVariables.congr hsame, v.seesCanonical_format.congr hsame,
    v.seesCanonical_dump.congr hsame, v.seesCanonical_truthTable.congr hsame,
    congrFun (v.seesCanonical_evaluateColumns.congr hsame),
    v.seesCanonical_isTautology.congr hsame, v.seesCanonical_isSatisfiable.congr hsame,
    fun {ts' us'} h' => ?_⟩
  calc v.areEquivalent (Token.items ts) (Token.items ts')
      = v.areEquivalent (Token.items us) (Token.items ts') :=
        (v.seesCanonical_areEquivalent_left _).congr hsame
    _ = v.areEquivalent (Token.items us) (Token.items us') :=
        (v.seesCanonical_areEquivalent_right _).congr (Vocabulary.map_canonicalToken_congr h')

/-- The case of `! TRUE && A` from a NOT that is forged to be a binary AND of the lowest precedence,
a TRUE with the value false and an A with the value true: it is false like the genuine one, has A as
its only variable, is written with the genuine symbols, and is equivalent to FALSE. -/
theorem metadata_ignored_forged :
    standard.evaluate (Token.items [⟨.operator, "NOT", some "&&", none, 2, -1, false⟩,
        ⟨.operand, "TRUE", none, some false, 0, 0, false⟩, standard.operator .and,
        ⟨.operand, "A", none, some true, 0, 0, false⟩]) (fun _ => true) = .ok false ∧
      standard.format (Token.items [⟨.operator, "NOT", some "&&", none, 2, -1, false⟩,
        ⟨.operand, "TRUE", none, some false, 0, 0, false⟩, standard.operator .and,
        ⟨.operand, "A", none, some true, 0, 0, false⟩]) = "! TRUE && A" ∧
      standard.areEquivalent (Token.items [⟨.operator, "NOT", some "&&", none, 2, -1, false⟩,
        ⟨.operand, "TRUE", none, some false, 0, 0, false⟩, standard.operator .and,
        ⟨.operand, "A", none, some true, 0, 0, false⟩])
        (Token.items [⟨.operand, "FALSE", some "TRUE", some true, 0, 0, false⟩]) = .ok true := by
  have h : List.Forall₂ standard.LookAlike
      [⟨.operator, "NOT", some "&&", none, 2, -1, false⟩,
        ⟨.operand, "TRUE", none, some false, 0, 0, false⟩, standard.operator .and,
        ⟨.operand, "A", none, some true, 0, 0, false⟩]
      [standard.operator .not, .constant "TRUE" true, standard.operator .and, .variable "A"] :=
    .cons ⟨by decide, rfl⟩ (.cons ⟨by decide, rfl⟩ (.cons ⟨by decide, rfl⟩
      (.cons ⟨by decide, rfl⟩ .nil)))
  have hfalse : List.Forall₂ standard.LookAlike
      [⟨.operand, "FALSE", some "TRUE", some true, 0, 0, false⟩] [.constant "FALSE" false] :=
    .cons ⟨by decide, rfl⟩ .nil
  obtain ⟨-, -, -, hevaluate, -, -, hformat, -, -, -, -, -, hequivalent⟩ := metadata_ignored h
  exact ⟨(hevaluate _).trans (by decide), hformat.trans (by decide),
    (hequivalent hfalse).trans (by decide)⟩

end InfixLogic
