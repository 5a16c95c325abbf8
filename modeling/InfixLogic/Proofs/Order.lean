import Mathlib.Data.Finset.Card
import Mathlib.Data.List.Dedup
import Mathlib.Data.List.DropRight

/- Lists in the order of use.

   A list may repeat its members; `dedup` keeps each of them in its last place, so that the members
   stand in the order in which they were last put there. One more at the end moves to the end of
   this order (`dedup_concat`). The last members of a list are its end, `rtake`; an end that is long
   enough to know them still knows them after one more (`rtake_moveToEnd`). -/

namespace InfixLogic

section Order
variable {α : Type} {k : α} {keys ks front back : List α}

/-- A list that has a member has it for the last time somewhere. -/
theorem last_of_mem (h : k ∈ ks) : ∃ front back, ks = front ++ k :: back ∧ k ∉ back := by
  obtain ⟨back, front, heq, hnot⟩ := List.eq_append_cons_of_mem (List.mem_reverse.mpr h)
  refine ⟨front.reverse, back.reverse, ?_, by simpa using hnot⟩
  rw [← ks.reverse_reverse, heq]
  simp

/-- The end of a list reaches a member if it is longer than what comes behind the member. -/
theorem mem_suffix_iff (hk : k ∉ back) (h : keys <:+ front ++ k :: back) :
    k ∈ keys ↔ back.length < keys.length := by
  have hback : back <:+ front ++ k :: back := ⟨front ++ [k], by simp⟩
  constructor
  · intro hmem
    by_contra hle
    exact hk ((List.suffix_of_suffix_length_le h hback (not_lt.mp hle)).subset hmem)
  · intro hlt
    have hcons : k :: back <:+ front ++ k :: back := ⟨front, rfl⟩
    exact (List.suffix_of_suffix_length_le hcons h hlt).subset (by simp)

theorem length_rtake (n : Nat) (ks : List α) : (ks.rtake n).length = min n ks.length := by
  rw [List.rtake, List.length_drop]
  omega

theorem rtake_suffix (n : Nat) (ks : List α) : ks.rtake n <:+ ks := List.drop_suffix _ _

/-- Ends of one list that have the same length are the same. -/
theorem rtake_of_suffix {n : Nat} (h : keys <:+ ks) (hn : n ≤ keys.length) :
    keys.rtake n = ks.rtake n := by
  have hle := h.length_le
  refine (List.suffix_of_suffix_length_le ((rtake_suffix n keys).trans h) (rtake_suffix n ks)
    ?_).eq_of_length ?_
  · rw [length_rtake, length_rtake]
    omega
  · rw [length_rtake, length_rtake]
    omega

variable [DecidableEq α]

/-- A list in which a member, or a new one, has become the last. -/
def moveToEnd (k : α) (ks : List α) : List α := ks.filter (· ≠ k) ++ [k]

theorem moveToEnd_of_notMem (h : k ∉ ks) : moveToEnd k ks = ks ++ [k] := by
  rw [moveToEnd, List.filter_eq_self.mpr]
  intro a ha
  simpa using ne_of_mem_of_not_mem ha h

theorem length_moveToEnd_of_mem (hnodup : ks.Nodup) (h : k ∈ ks) :
    (moveToEnd k ks).length = ks.length := by
  have hpos := List.length_pos_of_mem h
  have herase : ks.filter (· ≠ k) = ks.erase k := by
    rw [hnodup.erase_eq_filter]
    exact List.filter_congr fun a _ => by rw [Bool.eq_iff_iff, decide_eq_true_iff, bne_iff_ne]
  rw [moveToEnd, herase, List.length_append, List.length_erase_of_mem h, List.length_singleton]
  omega

theorem moveToEnd_suffix (k : α) (h : keys <:+ ks) : moveToEnd k keys <:+ moveToEnd k ks := by
  obtain ⟨older, rfl⟩ := h
  exact ⟨older.filter (· ≠ k), by simp [moveToEnd]⟩

/-- The distinct members of a list, each in its last place, after one more. -/
theorem dedup_concat (ks : List α) (k : α) : (ks ++ [k]).dedup = moveToEnd k ks.dedup := by
  induction ks with
  | nil => rfl
  | cons a ks ih =>
    by_cases ha : a ∈ ks
    · rw [List.cons_append, List.dedup_cons_of_mem (by simp [ha]), List.dedup_cons_of_mem ha, ih]
    · by_cases hak : a = k
      · subst hak
        rw [List.cons_append, List.dedup_cons_of_mem (by simp), List.dedup_cons_of_notMem ha, ih,
          moveToEnd, moveToEnd]
        simp
      · rw [List.cons_append, List.dedup_cons_of_notMem (by simp [ha, hak]),
          List.dedup_cons_of_notMem ha, ih, moveToEnd, moveToEnd]
        simp [hak]

/-- What comes after the last occurrence of a member stays behind it. -/
theorem dedup_append_cons (front : List α) (h : k ∉ back) :
    ∃ front', (front ++ k :: back).dedup = front' ++ k :: back.dedup := by
  induction front with
  | nil => exact ⟨[], List.dedup_cons_of_notMem h⟩
  | cons a front ih =>
    obtain ⟨front', hfront⟩ := ih
    by_cases ha : a ∈ front ++ k :: back
    · exact ⟨front', by rw [List.cons_append, List.dedup_cons_of_mem ha, hfront]⟩
    · exact ⟨a :: front', by rw [List.cons_append, List.dedup_cons_of_notMem ha, hfront]; rfl⟩

/-- Who only remembers the last members knows the last members after one more. -/
theorem rtake_moveToEnd {n : Nat} (hnodup : ks.Nodup) (k : α) :
    (moveToEnd k (ks.rtake n)).rtake n = (moveToEnd k ks).rtake n := by
  have hlen := length_rtake n ks
  by_cases hn : n ≤ ks.length
  · refine rtake_of_suffix (moveToEnd_suffix k (rtake_suffix n ks)) ?_
    by_cases hmem : k ∈ ks.rtake n
    · rw [length_moveToEnd_of_mem (hnodup.sublist (rtake_suffix n ks).sublist) hmem]
      omega
    · rw [moveToEnd_of_notMem hmem, List.length_append]
      omega
  · rw [(rtake_suffix n ks).eq_of_length (by omega)]

/-- A member is among the last distinct ones if few enough others come behind it. -/
theorem mem_rtake_dedup_iff {n : Nat} :
    k ∈ ks.dedup.rtake n ↔
      ∃ front back, ks = front ++ k :: back ∧ k ∉ back ∧ back.toFinset.card < n := by
  have hsplit (front back : List α) (h : k ∉ back) :
      k ∈ (front ++ k :: back).dedup.rtake n ↔ back.toFinset.card < n := by
    obtain ⟨front', hfront⟩ := dedup_append_cons front h
    have hend := rtake_suffix n (front ++ k :: back).dedup
    rw [hfront] at hend ⊢
    rw [mem_suffix_iff (by simpa using h) hend, length_rtake, List.card_toFinset,
      List.length_append, List.length_cons]
    omega
  constructor
  · intro h
    have hmem : k ∈ ks := List.mem_dedup.mp ((rtake_suffix n ks.dedup).subset h)
    obtain ⟨front, back, rfl, hnot⟩ := last_of_mem hmem
    exact ⟨front, back, rfl, hnot, (hsplit front back hnot).mp h⟩
  · rintro ⟨front, back, rfl, hnot, hcard⟩
    exact (hsplit front back hnot).mpr hcard

end Order

end InfixLogic
