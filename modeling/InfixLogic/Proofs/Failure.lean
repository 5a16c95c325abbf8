import Mathlib.Data.Fintype.Pi
import InfixLogic.Proofs.Columns

/- Failure does not depend on the environment.

   Whether an expression has a value, and with what fault it fails if it has none, is a matter of
   its tokens alone (`Vocabulary.denotes_or_fails`). So all rows of a truth table carry a value, or
   all carry one and the same fault (`truthTable_uniform`), and the counts of a table are those of
   the assignments under which the expression is true and false, or of faults only.

   `satisfying` is the set of the assignments under which an expression is true. It does not mention
   the assignment matrix; that the rows list each of its members once is what `card_satisfying`
   says. -/

namespace InfixLogic

/-! ## Assignments to some names -/

/-- What names stand for under an assignment to some of them; the others are false. -/
def assigned {names : List Text} (a : { n // n ∈ names } → Bool) (name : Text) : Bool :=
  if h : name ∈ names then a ⟨name, h⟩ else false

theorem assigned_of_mem {names : List Text} (a : { n // n ∈ names } → Bool) {name : Text}
    (h : name ∈ names) : assigned a name = a ⟨name, h⟩ :=
  dif_pos h

/-- An assignment is known by its values in the order of the names. -/
theorem map_assigned_injective (names : List Text) :
    Function.Injective fun a : { n // n ∈ names } → Bool => names.map (assigned a) := by
  intro a b h
  funext ⟨name, hmem⟩
  have hname := List.map_inj_left.mp h name hmem
  rwa [assigned_of_mem a hmem, assigned_of_mem b hmem] at hname

/-- Names without repeats have any values at all. -/
theorem exists_map_eq {names : List Text} (hnodup : names.Nodup) {bs : List Bool}
    (h : bs.length = names.length) : ∃ value : Text → Bool, names.map value = bs := by
  obtain ⟨m, -, hbits⟩ := exists_bits bs
  rw [h] at hbits
  exact ⟨_, (map_truth_ofRow hnodup m).trans hbits⟩

/-! ## Counts -/

theorem Counts.total_ofRows (rows : List Row) :
    (ofRows rows).trues + (ofRows rows).falses + (ofRows rows).errors = rows.length := by
  induction rows with
  | nil => rfl
  | cons r rows ih =>
    simp only [ofRows, List.countP_cons, List.length_cons] at ih ⊢
    cases r.isOk <;> cases r.result.truthy <;> simp <;> omega

namespace Vocabulary

variable {v : Vocabulary} {items : List Item}

/-! ## Rows -/

theorem row_error (v : Vocabulary) (items : List Item) (assignment : List (Text × Bool)) :
    (v.row items assignment).error =
      match v.evaluate items (Environment.ofBools assignment).truth with
      | .ok _ => none
      | .error f => some f.report := by
  rw [row]
  split <;> simp_all

theorem exists_of_mem_truthTable {r : Row} (h : r ∈ v.truthTable items) :
    ∃ assignment, r = v.row items assignment := by
  rw [truthTable] at h
  split at h
  · cases h
  · obtain ⟨bs, -, rfl⟩ := List.mem_map.mp h
    exact ⟨_, rfl⟩

/-- No row of a table has a fault, or all rows have the same one. -/
theorem truthTable_uniform (v : Vocabulary) (items : List Item) :
    (∀ r ∈ v.truthTable items, r.error = none) ∨
      ∃ f : Fault, ∀ r ∈ v.truthTable items, r.error = some f.report := by
  rcases v.denotes_or_fails items with ⟨value, hvalue⟩ | ⟨f, hf⟩
  · refine .inl fun r hr => ?_
    obtain ⟨assignment, rfl⟩ := exists_of_mem_truthTable hr
    rw [row_error, hvalue]
  · refine .inr ⟨f, fun r hr => ?_⟩
    obtain ⟨assignment, rfl⟩ := exists_of_mem_truthTable hr
    rw [row_error, hf]

theorem length_truthTable (h : v.usedVariables items ≠ []) :
    (v.truthTable items).length = 2 ^ (v.usedVariables items).length := by
  rw [truthTable_eq h, List.length_map, length_assignmentMatrix]

/-- The rows with a fault are none of them or all of them. -/
theorem errors_truthTable (v : Vocabulary) (items : List Item) :
    (Counts.ofRows (v.truthTable items)).errors = 0 ∨
      (Counts.ofRows (v.truthTable items)).errors = (v.truthTable items).length := by
  rcases v.truthTable_uniform items with hnone | ⟨f, hf⟩
  · refine .inl (List.countP_eq_zero.mpr fun r hr => ?_)
    simp [Row.isOk, hnone r hr]
  · refine .inr (List.countP_eq_length.mpr fun r hr => ?_)
    simp [Row.isOk, hf r hr]

/-! ## Satisfying assignments -/

/-- The assignments to the used variables under which an expression is true. -/
def satisfying (v : Vocabulary) (items : List Item) :
    Finset ({ n // n ∈ v.usedVariables items } → Bool) :=
  Finset.univ.filter fun a => v.evaluate items (assigned a) = .ok true

/-- A row counts as true if the expression is true under its assignment. -/
theorem row_true_iff {assignment : List (Text × Bool)} :
    ((v.row items assignment).isOk && (v.row items assignment).result.truthy) = true ↔
      v.evaluate items (Environment.ofBools assignment).truth = .ok true := by
  rw [row]
  cases v.evaluate items (Environment.ofBools assignment).truth with
  | ok b => simp [Row.isOk, Cell.truthy]
  | error f => simp [Row.isOk]

/-- In the row of some values an expression evaluates as it does for the values. -/
theorem evaluate_zip_map (v : Vocabulary) (items : List Item) (value : Text → Bool) :
    v.evaluate items (Environment.ofBools
        ((v.usedVariables items).zip ((v.usedVariables items).map value))).truth =
      v.evaluate items value :=
  evaluate_congr_used fun _ hn => Environment.truth_ofBools_zip hn value

/-- The rows of a table that are true. -/
def trueRows (v : Vocabulary) (items : List Item) : List (List Bool) :=
  (assignmentMatrix (v.usedVariables items).length).filter fun bs =>
    v.evaluate items (Environment.ofBools ((v.usedVariables items).zip bs)).truth = .ok true

theorem nodup_trueRows (v : Vocabulary) (items : List Item) : (v.trueRows items).Nodup :=
  (nodup_assignmentMatrix _).filter _

theorem trues_truthTable (h : v.usedVariables items ≠ []) :
    (Counts.ofRows (v.truthTable items)).trues = (v.trueRows items).length := by
  show List.countP _ _ = _
  rw [truthTable_eq h, List.countP_map, List.countP_eq_length_filter, trueRows]
  congr 1
  refine List.filter_congr fun bs _ => ?_
  rw [Bool.eq_iff_iff, Function.comp_apply, row_true_iff, decide_eq_true_iff]

/-- The true rows are the values of the satisfying assignments. -/
theorem mem_trueRows {bs : List Bool} :
    bs ∈ v.trueRows items ↔
      ∃ a ∈ v.satisfying items, (v.usedVariables items).map (assigned a) = bs := by
  simp only [trueRows, satisfying, List.mem_filter, Finset.mem_filter, Finset.mem_univ, true_and,
    decide_eq_true_eq, mem_assignmentMatrix]
  constructor
  · rintro ⟨hlen, htrue⟩
    obtain ⟨value, rfl⟩ := exists_map_eq (v.usedVariables_ascending items).nodup hlen
    have hvalue : ∀ n ∈ v.usedVariables items,
        assigned (fun n : { n // n ∈ v.usedVariables items } => value n) n = value n :=
      fun n hn => assigned_of_mem _ hn
    refine ⟨fun n => value n, ?_, List.map_congr_left hvalue⟩
    rw [evaluate_congr_used hvalue, ← v.evaluate_zip_map items value]
    exact htrue
  · rintro ⟨a, ha, rfl⟩
    exact ⟨List.length_map _, (v.evaluate_zip_map items _).trans ha⟩

/-- The true rows are as many as the satisfying assignments. -/
theorem card_satisfying (v : Vocabulary) (items : List Item) :
    (v.satisfying items).card = (v.trueRows items).length := by
  have himage : (v.satisfying items).image (fun a => (v.usedVariables items).map (assigned a)) =
      (v.trueRows items).toFinset := by
    ext bs
    rw [Finset.mem_image, List.mem_toFinset, mem_trueRows]
  rw [← Finset.card_image_of_injective _ (map_assigned_injective _), himage,
    List.toFinset_card_of_nodup (v.nodup_trueRows items)]

end Vocabulary

/-- An evaluation succeeds in all environments, or fails in all with one fault. So the rows of a
truth table all carry a value or all the same fault, and its counts are the number of assignments,
of which those that satisfy the expression are the true ones. -/
theorem failure_uniform (v : Vocabulary) (items : List Item) :
    (∀ env env' : Environment,
        (∃ b b', v.evaluate items env.truth = .ok b ∧ v.evaluate items env'.truth = .ok b') ∨
          ∃ f, v.evaluate items env.truth = .error f ∧ v.evaluate items env'.truth = .error f) ∧
      ((∀ r ∈ v.truthTable items, r.error = none) ∨
        ∃ f : Fault, ∀ r ∈ v.truthTable items, r.error = some f.report) ∧
      ∀ k counts, (v.usedVariables items).length = k → 0 < k →
        Counts.ofRows (v.truthTable items) = counts →
          counts.trues + counts.falses + counts.errors = 2 ^ k ∧
            (counts.errors = 0 ∨ counts.errors = 2 ^ k) ∧
              counts.trues = (v.satisfying items).card := by
  refine ⟨fun env env' => ?_, v.truthTable_uniform items, ?_⟩
  · rcases v.denotes_or_fails items with ⟨value, hvalue⟩ | ⟨f, hf⟩
    · exact .inl ⟨_, _, hvalue _, hvalue _⟩
    · exact .inr ⟨f, hf _, hf _⟩
  · rintro k counts rfl hpos rfl
    have hne : v.usedVariables items ≠ [] := List.ne_nil_of_length_pos hpos
    rw [Counts.total_ofRows, ← Vocabulary.length_truthTable hne]
    refine ⟨rfl, v.errors_truthTable items, ?_⟩
    rw [Vocabulary.trues_truthTable hne, v.card_satisfying]

open Vocabulary (standard)

/-- The cases of `A || B`, which three assignments satisfy, and of `A ||`, which fails in both
rows. -/
theorem failure_uniform_counted :
    (standard.satisfying (Token.items [.variable "A", standard.operator .or,
        .variable "B"])).card = 3 ∧
      ∃ f : Fault, ∀ r ∈ standard.truthTable (Token.items [.variable "A", standard.operator .or]),
        r.error = some f.report := by
  have hor := (failure_uniform standard (Token.items [.variable "A", standard.operator .or,
    .variable "B"])).2.2 2 ⟨3, 1, 0⟩ (by decide) (by decide) (by decide)
  refine ⟨hor.2.2.symm, ?_⟩
  rcases (failure_uniform standard (Token.items [.variable "A", standard.operator .or])).2.1 with
    hnone | hall
  · exact absurd hnone (by decide)
  · exact hall

end InfixLogic
