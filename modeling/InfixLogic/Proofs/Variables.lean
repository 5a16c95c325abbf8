import Mathlib.Data.List.Lex
import InfixLogic.TruthTable.Rows
import InfixLogic.Proofs.Canonical

/- The variables that an expression uses.

   `usedVariables` lists the names of the operands among the items that are free variables, in the
   strict order of their code points, so that none is listed twice (`usedVariables_ascending`,
   `mem_usedVariables`). What has a value of its own, and what only shares a name with a variable,
   is not listed. -/

namespace InfixLogic

/-- Distinct code points have distinct numbers. -/
theorem CodePoint.value_injective : Function.Injective CodePoint.value := by
  -- The numbers of lone halves are those that no character has.
  have hvalid (c : Char) (n : Fin 2048) : c.toNat ≠ 0xD800 + n := by
    have := c.valid
    have := n.isLt
    simp only [UInt32.isValidChar, Nat.isValidChar] at *
    intro h
    rw [Char.toNat] at h
    omega
  intro a b h
  match a, b with
  | .char c, .char d => exact congrArg _ (Char.toNat_inj.mp h)
  | .char c, .lone n => exact absurd h (hvalid c n)
  | .lone m, .char d => exact absurd h.symm (hvalid d m)
  | .lone m, .lone n => exact congrArg _ (Fin.ext (Nat.add_left_cancel h))

/-- Names in strictly ascending order. -/
def Ascending (names : List Text) : Prop :=
  names.Pairwise fun a b => a.map CodePoint.value < b.map CodePoint.value

theorem Ascending.nodup {names : List Text} (h : Ascending names) : names.Nodup :=
  h.imp fun hlt heq => absurd (heq ▸ hlt) (lt_irrefl _)

namespace Vocabulary

theorem mem_insertName {name n : Text} {names : List Text} :
    n ∈ insertName name names ↔ n = name ∨ n ∈ names := by
  induction names with
  | nil => simp [insertName]
  | cons m names ih =>
    rw [insertName]
    split
    · next heq => simp [heq]
    · split
      · simp
      · simp [ih, or_left_comm]

theorem ascending_insertName {name : Text} {names : List Text} (h : Ascending names) :
    Ascending (insertName name names) := by
  induction names with
  | nil => exact List.pairwise_singleton _ _
  | cons m names ih =>
    obtain ⟨hm, hnames⟩ := List.pairwise_cons.mp h
    rw [insertName]
    split
    · exact h
    · next hne =>
      split
      · next hlt =>
        refine List.pairwise_cons.mpr ⟨?_, h⟩
        intro n hn
        rcases List.mem_cons.mp hn with rfl | hn
        · exact hlt
        · exact lt_trans hlt (hm n hn)
      · next hnlt =>
        refine List.pairwise_cons.mpr ⟨?_, ih hnames⟩
        intro n hn
        rcases mem_insertName.mp hn with rfl | hn
        · -- It is not before `m` and is not `m`, so it comes behind.
          have hne' : n.map CodePoint.value ≠ m.map CodePoint.value := fun heq =>
            hne (List.map_injective_iff.mpr CodePoint.value_injective heq)
          exact lt_of_le_of_ne (not_lt.mp hnlt) hne'.symm
        · exact hm n hn

theorem mem_sortedNames {n : Text} {names : List Text} : n ∈ sortedNames names ↔ n ∈ names := by
  induction names with
  | nil => rfl
  | cons m names ih =>
    rw [sortedNames, List.foldr_cons, mem_insertName, ← sortedNames, ih, List.mem_cons]

theorem ascending_sortedNames (names : List Text) : Ascending (sortedNames names) := by
  induction names with
  | nil => exact .nil
  | cons m names ih => exact ascending_insertName ih

variable {v : Vocabulary}

/-- The used variables are the names of the free variables among the items. -/
theorem mem_usedVariables {items : List Item} {n : Text} :
    n ∈ v.usedVariables items ↔ ∃ t, .token t ∈ items ∧ v.isFree t = true ∧ t.name = n := by
  rw [usedVariables, mem_sortedNames, List.mem_filterMap]
  constructor
  · rintro ⟨item, hmem, hname⟩
    cases item with
    | token t =>
      rw [freeName?] at hname
      split at hname
      · next hfree => exact ⟨t, hmem, hfree, Option.some.inj hname⟩
      · cases hname
    | foreign w => cases hname
  · rintro ⟨t, hmem, hfree, rfl⟩
    exact ⟨.token t, hmem, by simp [freeName?, hfree]⟩

theorem usedVariables_ascending (v : Vocabulary) (items : List Item) :
    Ascending (v.usedVariables items) :=
  ascending_sortedNames _

end Vocabulary

end InfixLogic
