import InfixLogic.Proofs.Columns

/- What the queries answer.

   A query looks at the rows of the variables that are used, where the question is about every
   environment. Each environment has the values of some row on these variables (`exists_row`), and
   an evaluation looks at no other name; so what holds in every row, or in some row, holds in every
   environment, or in some (`forall_row_iff`). Expressions with different variables are
   compared over the variables of both.

   An expression that has a value somewhere has one everywhere, and one that fails somewhere fails
   everywhere with the same fault, which is then the answer of the query. -/

namespace InfixLogic

/-- A computation that gives a truth value, namely that of a proposition. -/
def Answers (x : Except Failure Bool) (P : Prop) : Prop := ∃ b, x = .ok b ∧ (b = true ↔ P)

namespace Vocabulary

variable {v : Vocabulary} {items left right : List Item} {value value' : (Text → Bool) → Bool}
  {names : List Text}

/-- Whether an expression has a value in some environment. -/
def Accepts (v : Vocabulary) (items : List Item) : Prop :=
  ∃ (env : Environment) (b : Bool), v.evaluate items env.truth = .ok b

theorem Accepts.denotes (h : v.Accepts items) : ∃ value, v.Denotes items value := by
  obtain ⟨env, b, hb⟩ := h
  rcases v.denotes_or_fails items with hvalue | ⟨f, hf⟩
  · exact hvalue
  · cases (hf env.truth).symm.trans hb

/-- What depends on some names only and holds in every row of them holds in every environment. -/
theorem forall_row_iff {P : (Text → Bool) → Prop} (hnames : names.Nodup)
    (hP : ∀ env env' : Text → Bool, (∀ n ∈ names, env n = env' n) → (P env ↔ P env')) :
    (∀ m < 2 ^ names.length, P (Environment.ofRow names m).truth) ↔
      ∀ env : Environment, P env.truth := by
  constructor
  · intro h env
    obtain ⟨m, hm, hrow⟩ := exists_row hnames env.truth
    exact (hP _ _ hrow).mp (h m hm)
  · exact fun h m _ => h _

theorem Denotes.answers_isTautology (h : v.Denotes items value) :
    Answers (v.isTautology items)
      (∀ env : Environment, v.evaluate items env.truth = .ok true) := by
  refine ⟨_, by rw [isTautology, h.evaluateColumns]; rfl, ?_⟩
  simp only [List.all_map, List.all_eq_true, List.mem_range, Function.comp_apply, h _,
    Except.ok.injEq]
  refine forall_row_iff (P := fun env => value env = true)
    (v.usedVariables_ascending items).nodup fun env env' henv => ?_
  rw [h.congr henv]

theorem Denotes.answers_isSatisfiable (h : v.Denotes items value) :
    Answers (v.isSatisfiable items)
      (∃ env : Environment, v.evaluate items env.truth = .ok true) := by
  refine ⟨_, by rw [isSatisfiable, h.evaluateColumns]; rfl, ?_⟩
  -- It is not satisfiable if it is false in every row.
  rw [← not_iff_not]
  simp only [List.any_map, List.any_eq_true, List.mem_range, Function.comp_apply, h _,
    Except.ok.injEq, not_exists, not_and]
  refine forall_row_iff (P := fun env => ¬value env = true)
    (v.usedVariables_ascending items).nodup fun env env' henv => ?_
  rw [h.congr henv]

theorem Denotes.answers_areEquivalent (h : v.Denotes left value) (h' : v.Denotes right value') :
    Answers (v.areEquivalent left right) (∀ env : Environment,
      v.evaluate left env.truth = v.evaluate right env.truth) := by
  refine ⟨_, by
    rw [areEquivalent, h.evaluateColumns, h'.evaluateColumns]; rfl, ?_⟩
  simp only [beq_iff_eq, List.map_inj_left, List.mem_range, h _, h' _, Except.ok.injEq]
  refine forall_row_iff (P := fun env => value env = value' env) (ascending_sortedNames _).nodup
    fun env env' henv => ?_
  rw [h.congr fun n hn => henv n (mem_sortedNames.mpr (List.mem_append_left _ hn)),
    h'.congr fun n hn => henv n (mem_sortedNames.mpr (List.mem_append_right _ hn))]

/-! ## Failures -/

theorem evaluateColumns_ok_iff :
    (∃ bs, v.evaluateColumns items names = .ok bs) ↔ v.Accepts items := by
  constructor
  · rintro ⟨bs, hbs⟩
    obtain ⟨value, hvalue, -⟩ := denotes_of_evaluateColumns hbs
    exact ⟨[], _, hvalue _⟩
  · intro h
    obtain ⟨value, hvalue⟩ := h.denotes
    exact ⟨_, hvalue.evaluateColumns names⟩

variable {F : Failure}

theorem isTautology_error_iff (env : Environment) :
    v.isTautology items = .error F ↔ v.Rejects items env F := by
  rw [isTautology, bind_pure_error, evaluateColumns_error_iff env]

theorem isSatisfiable_error_iff (env : Environment) :
    v.isSatisfiable items = .error F ↔ v.Rejects items env F := by
  rw [isSatisfiable, bind_pure_error, evaluateColumns_error_iff env]

theorem areEquivalent_error_iff (env : Environment) :
    v.areEquivalent left right = .error F ↔
      v.Rejects left env F ∨ v.Accepts left ∧ v.Rejects right env F := by
  rw [areEquivalent, bind_error]
  simp only [bind_pure_error, evaluateColumns_error_iff env, exists_and_right,
    evaluateColumns_ok_iff]

end Vocabulary

open Vocabulary (standard)

/-- The queries decide what they ask for, over every environment: whether an expression is true in
all or in some, and whether two have the same values in all. They fail for the expressions that
have no value, as these do, the left one first. -/
theorem queries_decide (v : Vocabulary) :
    (∀ items, v.Accepts items →
        Answers (v.isTautology items)
          (∀ env : Environment, v.evaluate items env.truth = .ok true) ∧
        Answers (v.isSatisfiable items)
          (∃ env : Environment, v.evaluate items env.truth = .ok true)) ∧
      (∀ left right, v.Accepts left → v.Accepts right →
        Answers (v.areEquivalent left right) (∀ env : Environment,
          v.evaluate left env.truth = v.evaluate right env.truth)) ∧
      (∀ items (env : Environment) F,
        (v.isTautology items = .error F ↔ v.Rejects items env F) ∧
        (v.isSatisfiable items = .error F ↔ v.Rejects items env F)) ∧
      ∀ left right (env : Environment) F, v.areEquivalent left right = .error F ↔
        v.Rejects left env F ∨ v.Accepts left ∧ v.Rejects right env F := by
  refine ⟨fun items h => ?_, fun left right hleft hright => ?_, fun items env F => ?_,
    fun left right env F => Vocabulary.areEquivalent_error_iff env⟩
  · obtain ⟨value, hvalue⟩ := h.denotes
    exact ⟨hvalue.answers_isTautology, hvalue.answers_isSatisfiable⟩
  · obtain ⟨value, hvalue⟩ := hleft.denotes
    obtain ⟨value', hvalue'⟩ := hright.denotes
    exact hvalue.answers_areEquivalent hvalue'
  · exact ⟨Vocabulary.isTautology_error_iff env, Vocabulary.isSatisfiable_error_iff env⟩

/-- The cases of TRUE, which has no variables, of `A || B && ! B` against `A`, which has fewer, and
of `A ||`, which has no value, against an expression without items. -/
theorem queries_decide_absorbed :
    (∀ env : Environment, standard.evaluate [.token (.constant "TRUE" true)] env.truth = .ok true) ∧
      (∀ env : Environment, standard.evaluate (Token.items [.variable "A", standard.operator .or,
          .variable "B", standard.operator .and, standard.operator .not, .variable "B"]) env.truth =
        standard.evaluate [.token (.variable "A")] env.truth) ∧
      standard.areEquivalent (Token.items [.variable "A", standard.operator .or]) [] =
        .error (.fault (.danglingOperator 1)) := by
  obtain ⟨hone, htwo, -, hfail⟩ := queries_decide standard
  obtain ⟨b, hb, htautology⟩ := (hone [.token (.constant "TRUE" true)] ⟨[], true, rfl⟩).1
  obtain ⟨c, hc, hequivalent⟩ := htwo (Token.items [.variable "A", standard.operator .or,
    .variable "B", standard.operator .and, standard.operator .not, .variable "B"])
    [.token (.variable "A")] ⟨[], false, rfl⟩ ⟨[], false, rfl⟩
  refine ⟨htautology.mp ?_, hequivalent.mp ?_, (hfail _ _ [] _).mpr (.inl ⟨_, rfl, rfl⟩)⟩
  · exact Except.ok.inj (hb.symm.trans rfl)
  · exact Except.ok.inj (hc.symm.trans rfl)

end InfixLogic
