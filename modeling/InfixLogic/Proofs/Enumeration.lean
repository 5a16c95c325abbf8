import Mathlib.Data.Nat.Digits.Lemmas
import InfixLogic.Proofs.Matrix

/- The order of the assignments.

   A row of truth values is a number in binary, the highest bit first (`number`), and it stands where
   this number says (`number_of_getElem?`), so that no list of truth values has two places. By
   induction along the two halves of the matrix the rows ascend from all false to all true
   (`pairwise_assignmentMatrix`). `Enumerates` collects what this says of the matrix. -/

namespace InfixLogic

/-- The number that truth values write in binary, the highest bit first. -/
def number (bs : List Bool) : Nat := Nat.ofDigits 2 (bs.reverse.map Bool.toNat)

theorem number_cons (b : Bool) (bs : List Bool) :
    number (b :: bs) = number bs + 2 ^ bs.length * b.toNat := by
  rw [number, List.reverse_cons, List.map_append, Nat.ofDigits_append, List.length_map,
    List.length_reverse, List.map_singleton, Nat.ofDigits_singleton]
  rfl

/-- The lowest bits of a number are the number up to what lies above them. -/
theorem number_bits (n m : Nat) : number (bits n m) = m % 2 ^ n := by
  induction n with
  | zero => rw [Nat.pow_zero, Nat.mod_one]; rfl
  | succ n ih => rw [bits_succ, number_cons, ih, length_bits, Nat.toNat_testBit, Nat.mod_pow_succ]

/-- A row stands where its number says. -/
theorem number_of_getElem? {n m : Nat} {bs : List Bool} (h : (assignmentMatrix n)[m]? = some bs) :
    number bs = m := by
  have hm : m < 2 ^ n := by
    obtain ⟨hlt, -⟩ := List.getElem?_eq_some_iff.mp h
    rwa [length_assignmentMatrix] at hlt
  obtain rfl := Option.some.inj ((getElem?_assignmentMatrix hm).symm.trans h)
  rw [number_bits, Nat.mod_eq_of_lt hm]

/-- Every list of truth values is one row of the matrix. -/
theorem existsUnique_row {n : Nat} {bs : List Bool} (h : bs.length = n) :
    ∃! m : Nat, (assignmentMatrix n)[m]? = some bs := by
  obtain ⟨m, hm⟩ := List.mem_iff_getElem?.mp (mem_assignmentMatrix.mpr h)
  exact ⟨m, hm, fun k hk => (number_of_getElem? hk).symm.trans (number_of_getElem? hm)⟩

/-- The rows ascend, false coming before true. -/
theorem pairwise_assignmentMatrix (n : Nat) : (assignmentMatrix n).Pairwise (· < ·) := by
  induction n with
  | zero => exact List.pairwise_singleton _ _
  | succ n ih =>
    rw [assignmentMatrix_succ, List.pairwise_append, List.pairwise_map, List.pairwise_map]
    have hcons (b : Bool) : (assignmentMatrix n).Pairwise fun bs cs => b :: bs < b :: cs :=
      ih.imp fun h => List.cons_lt_cons_self.mpr h
    refine ⟨hcons false, hcons true, ?_⟩
    -- A row of the first half is smaller in its first value.
    intro bs hbs cs hcs
    obtain ⟨bs, -, rfl⟩ := List.mem_map.mp hbs
    obtain ⟨cs, -, rfl⟩ := List.mem_map.mp hcs
    exact List.Lex.rel (by decide)

theorem head?_assignmentMatrix (n : Nat) :
    (assignmentMatrix n).head? = some (List.replicate n false) := by
  induction n with
  | zero => rfl
  | succ n ih => rw [assignmentMatrix_succ, List.head?_append, List.head?_map, ih]; rfl

theorem getLast?_assignmentMatrix (n : Nat) :
    (assignmentMatrix n).getLast? = some (List.replicate n true) := by
  induction n with
  | zero => rfl
  | succ n ih => rw [assignmentMatrix_succ, List.getLast?_append, List.getLast?_map, ih]; rfl

/-- A list of all rows of `n` truth values, in the order of the numbers that they write. -/
structure Enumerates (n : Nat) (rows : List (List Bool)) : Prop where
  length : rows.length = 2 ^ n
  width : ∀ row ∈ rows, row.length = n
  numbered : ∀ (m : Nat) (row : List Bool), rows[m]? = some row → number row = m
  once : ∀ bs : List Bool, bs.length = n → ∃! m : Nat, rows[m]? = some bs
  ascending : rows.Pairwise (· < ·)
  first : rows.head? = some (List.replicate n false)
  last : rows.getLast? = some (List.replicate n true)

/-- The matrix has every assignment in one row, in ascending order, and with one more variable it is
the same rows behind false and then behind true. -/
theorem assignmentMatrix_enumerates (n : Nat) :
    Enumerates n (assignmentMatrix n) ∧
      assignmentMatrix (n + 1) =
        (assignmentMatrix n).map (false :: ·) ++ (assignmentMatrix n).map (true :: ·) := by
  refine ⟨?_, assignmentMatrix_succ n⟩
  exact {
    length := length_assignmentMatrix n
    width := fun _ => mem_assignmentMatrix.mp
    numbered := fun _ _ => number_of_getElem?
    once := fun _ => existsUnique_row
    ascending := pairwise_assignmentMatrix n
    first := head?_assignmentMatrix n
    last := getLast?_assignmentMatrix n }

example : assignmentMatrix 2 = [[false, false], [false, true], [true, false], [true, true]] := by
  decide

end InfixLogic
