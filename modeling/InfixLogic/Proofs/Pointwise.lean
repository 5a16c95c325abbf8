import InfixLogic.Proofs.Columns
import InfixLogic.Proofs.Height
import InfixLogic.Proposal

/- Runs of the machine on arrays.

   A name can stand for one value or for an array of values, all arrays of one length (`Binding`). The
   machine then runs on columns. In each row it does what it does in the environment of that row, by
   the simulation of columns (`tells_lookup`), so it fails as it does on single values, never for want
   of a common length, and else gives the values of the rows.

   Whether the result is an array can be read off the names alone. A connective gives an array if one
   of its operands is one, and nothing is dropped from the stack, so at every point of a run the stack
   holds an array exactly if one has been looked up (`any_isArray_runFrom`).

   `run_pointwise` puts this together for arrays of every length, the empty ones and those of length
   one included. -/

namespace InfixLogic

/-! ## Arrays on the stack -/

/-- Whether a column has a value for each row. -/
def Column.isArray : Column → Bool
  | .constant _ => false
  | .rows _ => true

namespace Column

theorem isArray_negate (c : Column) : c.negate.isArray = c.isArray := by cases c <;> rfl

/-- A combination is an array if one of its parts is one. -/
theorem isArray_combine {f : Bool → Bool → Bool} {c d e : Column} (h : combine f c d = .ok e) :
    e.isArray = (c.isArray || d.isArray) := by
  cases c with
  | constant a => cases d <;> (obtain rfl := Except.ok.inj h; rfl)
  | rows as =>
    cases d with
    | constant b =>
      obtain rfl := Except.ok.inj h
      rfl
    | rows bs =>
      rw [combine] at h
      cases hrows : zipRows f as bs with
      | error e =>
        rw [hrows] at h
        cases h
      | ok cs =>
        rw [hrows] at h
        obtain rfl := Except.ok.inj h
        rfl

end Column

namespace Vocabulary

variable {v : Vocabulary} {env : Text → Column} {i : Nat} {stack stack' : List Column}

theorem any_isArray_apply {c : Connective}
    (h : Interpretation.column.apply i c stack = .ok stack') :
    stack'.any Column.isArray = stack.any Column.isArray := by
  match c, stack, h with
  | .not, a :: stack, h =>
    obtain rfl := Except.ok.inj h
    simp [Interpretation.column, Column.isArray_negate]
  | .and, b :: a :: stack, h | .or, b :: a :: stack, h =>
    obtain ⟨c, hc, hrest⟩ := bind_ok.mp h
    obtain rfl := Except.ok.inj hrest
    simp only [List.any_cons, Column.isArray_combine hc]
    rw [Bool.or_comm a.isArray, Bool.or_assoc]

/-- Whether a token looks an array up. -/
def looksUpArray (v : Vocabulary) (env : Text → Column) (t : Token) : Bool :=
  v.isFree t && (env t.name).isArray

/-- An operand pushes an array if it looks one up. -/
theorem isArray_operand {t : Token} (htag : t.tag = .operand) (hdef : v.defines t = true) :
    (Interpretation.column.operand env (v.canonicalToken t)).isArray = v.looksUpArray env t := by
  cases hval : (v.canonicalToken t).value with
  | some b =>
    -- A free variable has no value of its own.
    have hfree : v.isFree t = false := by
      refine Bool.eq_false_iff.mpr fun hfree => ?_
      rw [canonicalToken_of_isFree hfree] at hval
      cases hval
    simp [Interpretation.operand, hval, looksUpArray, hfree, Interpretation.column, Column.isArray]
  | none =>
    simp [Interpretation.operand, hval, looksUpArray, isFree_of_value_none htag hdef hval]

theorem any_isArray_step {t : Token}
    (h : v.step .column env i (v.canonicalToken t) stack = .ok stack') :
    stack'.any Column.isArray = (v.looksUpArray env t || stack.any Column.isArray) := by
  cases t.role v with
  | value htag hdef =>
    rw [step_value htag hdef] at h
    obtain rfl := Except.ok.inj h
    rw [List.any_cons, isArray_operand htag hdef]
  | connective c hid =>
    have hfree : v.looksUpArray env t = false := by
      simp [looksUpArray, isFree, Token.isOperand, (Prod.mk.inj hid).1]
    rw [step_connective hid] at h
    rw [any_isArray_apply h, hfree, Bool.false_or]
  | foreignOperand htag hdef => cases (step_foreignOperand htag hdef i stack).symm.trans h
  | other htag hid => cases (step_other htag hid i stack).symm.trans h

theorem any_isArray_runFrom {ts : List Token}
    (h : v.runFrom .column env i stack (Token.items ts) = .ok stack') :
    stack'.any Column.isArray = (ts.any (v.looksUpArray env) || stack.any Column.isArray) := by
  induction ts generalizing i stack with
  | nil =>
    obtain rfl := Except.ok.inj h
    rfl
  | cons t ts ih =>
    obtain ⟨m, hstep, hrest⟩ := bind_ok.mp h
    rw [ih hrest, any_isArray_step hstep, List.any_cons, Bool.or_left_comm, Bool.or_assoc]

/-- A result is an array if the run has looked one up. -/
theorem isArray_run {ts : List Token} {c : Column}
    (h : v.run .column env (Token.items ts) = .ok c) :
    c.isArray = ts.any (v.looksUpArray env) := by
  simpa using any_isArray_runFrom (run_ok_iff.mp h)

end Vocabulary

/-! ## Environments with arrays -/

/-- What a name stands for: one value, or an array with a value for each row. -/
inductive Binding where
  | single (w : Value)
  | array (ws : List Value)

namespace Binding

def column : Binding → Column
  | .single w => .constant w.truthy
  | .array ws => .ofValues ws

/-- Whether an array has `n` elements. -/
def Spans (n : Nat) : Binding → Prop
  | .single _ => True
  | .array ws => ws.length = n

/-- The value in a row: an array gives the truth of its element. -/
def inRow (k : Nat) : Binding → Value
  | .single w => w
  | .array ws => .bool (ws[k]?.any Value.truthy)

/-- The columns of an environment with arrays. -/
def columns (env : List (Text × Binding)) : List (Text × Column) :=
  env.map fun p => (p.1, p.2.column)

/-- The environment of a row. -/
def rowAt (env : List (Text × Binding)) (k : Nat) : Environment :=
  env.map fun p => (p.1, p.2.inRow k)

/-- Whether a name stands for an array. -/
def BindsArray (env : List (Text × Binding)) (name : Text) : Prop :=
  ∃ ws, env.lookup name = some (.array ws)

variable {env : List (Text × Binding)} {n : Nat}

theorem column_tells {b : Binding} (h : b.Spans n) (k : Nat) :
    b.column.Tells n k (b.inRow k).truthy := by
  cases b with
  | single w => exact ⟨trivial, fun e he => (Option.some.inj he).symm⟩
  | array ws =>
    refine ⟨(List.length_map _).trans h, fun e he => ?_⟩
    obtain ⟨w, hw, rfl⟩ : ∃ w, ws[k]? = some w ∧ w.truthy = e := by
      simpa [column, Column.ofValues, Column.cell?, Option.map_eq_some_iff] using he
    simp [inRow, hw, Value.truthy]

/-- The column of a name tells in each row what the name stands for there. -/
theorem tells_lookup (henv : ∀ p ∈ env, p.2.Spans n) (k : Nat) (name : Text) :
    (Column.lookup (columns env) name).Tells n k ((rowAt env k).truth name) := by
  rw [Column.lookup, columns, Environment.truth, rowAt, Proposal.lookup_map column,
    Proposal.lookup_map (inRow k)]
  cases h : env.lookup name with
  | none => exact ⟨trivial, fun e he => (Option.some.inj he).symm⟩
  | some b =>
    obtain ⟨before, after, rfl, -⟩ := List.lookup_eq_some_iff.mp h
    exact column_tells (henv (name, b) (by simp)) k

theorem isArray_lookup_iff (env : List (Text × Binding)) (name : Text) :
    (Column.lookup (columns env) name).isArray = true ↔ BindsArray env name := by
  rw [Column.lookup, columns, Proposal.lookup_map column, BindsArray]
  cases env.lookup name with
  | none => simp [Column.isArray]
  | some b => cases b <;> simp [column, Column.ofValues, Column.isArray]

end Binding

open Binding (columns rowAt BindsArray)

namespace Vocabulary

variable {v : Vocabulary} {ts : List Token} {env : List (Text × Binding)} {n : Nat} {c : Column}

/-- In every row a run on columns is like the run in the environment of the row. -/
theorem alike_row (v : Vocabulary) (ts : List Token) (henv : ∀ p ∈ env, p.2.Spans n) (k : Nat) :
    Alike (fun f => f) .fault (Column.Tells n k) (v.run .truth (rowAt env k).truth (Token.items ts))
      (v.run .column (Column.lookup (columns env)) (Token.items ts)) :=
  (column_tells n k).run fun t _ _ => Binding.tells_lookup henv k t.name

/-- Whether a run fails, and how, depends on no value. -/
theorem run_error_any (env env' : Text → Bool) {f : Fault} :
    v.run .truth env (Token.items ts) = .error f ↔
      v.run .truth env' (Token.items ts) = .error f := by
  have halike (env env' : Text → Bool) :
      Alike _ _ _ (v.run .truth env (Token.items ts)) (v.run .truth env' (Token.items ts)) :=
    truth_simulates_any.run fun _ _ _ => trivial
  exact ⟨(halike env env').of_error, (halike env' env).of_error⟩

theorem isArray_run_iff
    (h : v.run .column (Column.lookup (columns env)) (Token.items ts) = .ok c) :
    c.isArray = true ↔ ∃ name ∈ v.usedVariables (Token.items ts), BindsArray env name := by
  rw [isArray_run h, List.any_eq_true]
  constructor
  · rintro ⟨t, ht, hlooks⟩
    obtain ⟨hfree, harray⟩ := Bool.and_eq_true_iff.mp hlooks
    exact ⟨t.name, mem_usedVariables.mpr ⟨t, List.mem_map_of_mem ht, hfree, rfl⟩,
      (Binding.isArray_lookup_iff env t.name).mp harray⟩
  · rintro ⟨name, hname, harray⟩
    obtain ⟨t, ht, hfree, rfl⟩ := mem_usedVariables.mp hname
    refine ⟨t, by simpa [Token.items] using ht, Bool.and_eq_true_iff.mpr ⟨hfree, ?_⟩⟩
    exact (Binding.isArray_lookup_iff env t.name).mpr harray

end Vocabulary

open Vocabulary (standard)

/-- With arrays of one length a run fails as it does in every environment of single values, and for
no other reason. Otherwise the result is a single value if no variable of the sequence stands for an
array, and it is then the value in every row; else it is an array of that length whose elements are
the values in the rows. -/
theorem run_pointwise (v : Vocabulary) (ts : List Token) {n : Nat} {env : List (Text × Binding)}
    (henv : ∀ p ∈ env, p.2.Spans n) :
    (∀ (F : Failure) (scalars : Environment),
        v.run .column (Column.lookup (columns env)) (Token.items ts) = .error F ↔
          ∃ f, F = .fault f ∧ v.run .truth scalars.truth (Token.items ts) = .error f) ∧
      ∀ c, v.run .column (Column.lookup (columns env)) (Token.items ts) = .ok c →
        ((∃ b, c = .constant b) ↔
          ∀ name ∈ v.usedVariables (Token.items ts), ¬ BindsArray env name) ∧
        (∀ b, c = .constant b → ∀ k, v.run .truth (rowAt env k).truth (Token.items ts) = .ok b) ∧
        ∀ bs, c = .rows bs → bs.length = n ∧
          ∀ k < n, ∃ b, bs[k]? = some b ∧
            v.run .truth (rowAt env k).truth (Token.items ts) = .ok b := by
  refine ⟨fun F scalars => ?_, fun c hc => ⟨?_, ?_, ?_⟩⟩
  · rw [(Vocabulary.alike_row v ts henv 0).error_iff]
    simp only [Vocabulary.run_error_any (rowAt env 0).truth scalars.truth]
  · have harray := Vocabulary.isArray_run_iff hc
    cases c with
    | constant b =>
      have hnone : ∀ name ∈ v.usedVariables (Token.items ts), ¬ BindsArray env name := by
        simpa [Column.isArray] using harray
      exact ⟨fun _ => hnone, fun _ => ⟨b, rfl⟩⟩
    | rows bs =>
      obtain ⟨name, hname, hbinds⟩ := harray.mp rfl
      exact ⟨nofun, fun hnone => absurd hbinds (hnone name hname)⟩
  · rintro b rfl k
    obtain ⟨a, ha, htells⟩ := (Vocabulary.alike_row v ts henv k).of_ok_right hc
    rw [ha, htells.entry b rfl]
  · rintro bs rfl
    have hlength : bs.length = n := by
      obtain ⟨_, _, htells⟩ := (Vocabulary.alike_row v ts henv 0).of_ok_right hc
      exact htells.fits
    refine ⟨hlength, fun k hk => ?_⟩
    obtain ⟨a, ha, htells⟩ := (Vocabulary.alike_row v ts henv k).of_ok_right hc
    have hentry := List.getElem?_eq_getElem (hlength.symm ▸ hk)
    exact ⟨_, hentry, by rw [ha, htells.entry _ hentry]⟩

/-- The cases of `A B AND` for an empty A and a single B, and for an A of one element; and of an
`AND` that lacks an operand, which fails on arrays as it does for any truth values. -/
theorem run_pointwise_short :
    (¬ ∀ name ∈ standard.usedVariables (Token.items [.variable "A", .variable "B",
        standard.operator .and]),
      ¬ BindsArray [("A", .array []), ("B", .single (.bool true))] name) ∧
    (∃ b, [true][0]? = some b ∧
      standard.run .truth (rowAt [("A", .array [.int 3]), ("B", .single (.bool true))] 0).truth
        (Token.items [.variable "A", .variable "B", standard.operator .and]) = .ok b) ∧
    ∀ scalars : Environment, ∃ f, Failure.fault (.starved .and 1) = .fault f ∧
      standard.run .truth scalars.truth
        (Token.items [.variable "A", standard.operator .and]) = .error f := by
  have hspans (ws : List Value) :
      ∀ p ∈ ([("A", .array ws), ("B", .single (.bool true))] : List (Text × Binding)),
        p.2.Spans ws.length := by
    simp [Binding.Spans]
  have hempty := run_pointwise standard [.variable "A", .variable "B", standard.operator .and]
    (hspans [])
  have hone := run_pointwise standard [.variable "A", .variable "B", standard.operator .and]
    (hspans [.int 3])
  have hstarved := run_pointwise standard [.variable "A", standard.operator .and]
    (hspans [.int 3])
  refine ⟨?_, ((hone.2 (.rows [true]) rfl).2.2 [true] rfl).2 0 Nat.zero_lt_one,
    fun scalars => (hstarved.1 _ scalars).mp rfl⟩
  rw [← (hempty.2 (.rows []) rfl).1]
  nofun

end InfixLogic
