import Mathlib.Data.List.Nodup
import Mathlib.Data.Nat.Bitwise
import InfixLogic.TruthTable.Matrix

/- The assignment matrix lists every assignment once.

   One more variable doubles the matrix: the rows of the others come once behind false and once
   behind true (`assignmentMatrix_succ`). By induction along this the rows are the lists of `n`
   truth values, all of them (`mem_assignmentMatrix`) and none twice (`nodup_assignmentMatrix`). -/

namespace InfixLogic

@[simp] theorem length_bits (n m : Nat) : (bits n m).length = n := by
  simp [bits]

theorem getElem?_bits {n m i : Nat} (h : i < n) :
    (bits n m)[i]? = some (m.testBit (n - 1 - i)) := by
  simp [bits, h]

theorem bits_succ (n m : Nat) : bits (n + 1) m = m.testBit n :: bits n m := by
  rw [bits, List.range_succ_eq_map, List.map_cons, List.map_map, bits]
  congr 1
  refine List.map_congr_left fun i _ => ?_
  rw [Function.comp_apply, Nat.succ_eq_add_one, Nat.add_sub_cancel, Nat.sub_sub, Nat.add_comm 1]

/-- The lowest bits do not see what lies above them. -/
theorem bits_two_pow_add (n m : Nat) : bits n (2 ^ n + m) = bits n m := by
  refine List.map_congr_left fun i hi => ?_
  have := List.mem_range.mp hi
  exact Nat.testBit_two_pow_add_gt (by omega) m

@[simp] theorem length_assignmentMatrix (n : Nat) : (assignmentMatrix n).length = 2 ^ n := by
  simp [assignmentMatrix]

theorem getElem?_assignmentMatrix {n m : Nat} (h : m < 2 ^ n) :
    (assignmentMatrix n)[m]? = some (bits n m) := by
  simp [assignmentMatrix, h]

theorem assignmentMatrix_succ (n : Nat) :
    assignmentMatrix (n + 1) =
      (assignmentMatrix n).map (false :: ·) ++ (assignmentMatrix n).map (true :: ·) := by
  have hlow (m : Nat) (h : m ∈ List.range (2 ^ n)) : bits (n + 1) m = false :: bits n m := by
    rw [bits_succ, Nat.testBit_lt_two_pow (List.mem_range.mp h)]
  have hhigh (m : Nat) (h : m ∈ List.range (2 ^ n)) :
      bits (n + 1) (2 ^ n + m) = true :: bits n m := by
    rw [bits_succ, bits_two_pow_add, Nat.testBit_two_pow_add_eq,
      Nat.testBit_lt_two_pow (List.mem_range.mp h), Bool.not_false]
  simp only [assignmentMatrix, Nat.pow_eq, List.map_map]
  rw [Nat.pow_succ, Nat.mul_two, List.range_add, List.map_append, List.map_map]
  exact congrArg₂ (· ++ ·) (List.map_congr_left hlow) (List.map_congr_left hhigh)

theorem mem_assignmentMatrix {n : Nat} {bs : List Bool} :
    bs ∈ assignmentMatrix n ↔ bs.length = n := by
  induction n generalizing bs with
  | zero => simp [assignmentMatrix, bits]
  | succ n ih =>
    rw [assignmentMatrix_succ, List.mem_append, List.mem_map, List.mem_map]
    constructor
    · rintro (⟨cs, hcs, rfl⟩ | ⟨cs, hcs, rfl⟩) <;> simp [ih.mp hcs]
    · intro h
      match bs, h with
      | false :: cs, h => exact .inl ⟨cs, ih.mpr (Nat.succ.inj h), rfl⟩
      | true :: cs, h => exact .inr ⟨cs, ih.mpr (Nat.succ.inj h), rfl⟩

theorem nodup_assignmentMatrix (n : Nat) : (assignmentMatrix n).Nodup := by
  induction n with
  | zero => simp [assignmentMatrix]
  | succ n ih =>
    rw [assignmentMatrix_succ]
    refine List.Nodup.append (ih.map List.cons_injective) (ih.map List.cons_injective) ?_
    -- The halves differ in the first value of each row.
    intro bs hfalse htrue
    obtain ⟨cs, -, rfl⟩ := List.mem_map.mp hfalse
    obtain ⟨ds, -, h⟩ := List.mem_map.mp htrue
    cases h

/-- One row of the matrix is the given one. -/
theorem filter_assignmentMatrix {n : Nat} {bs : List Bool} (h : bs.length = n) :
    (assignmentMatrix n).filter (· == bs) = [bs] := by
  rw [List.filter_beq,
    List.count_eq_one_of_mem (nodup_assignmentMatrix n) (mem_assignmentMatrix.mpr h)]
  rfl

/-- Every list of truth values is a number in binary. -/
theorem exists_bits (bs : List Bool) : ∃ m < 2 ^ bs.length, bits bs.length m = bs := by
  obtain ⟨m, hm, hbits⟩ := List.mem_map.mp (mem_assignmentMatrix.mpr (rfl : bs.length = bs.length))
  exact ⟨m, List.mem_range.mp hm, hbits⟩

end InfixLogic
