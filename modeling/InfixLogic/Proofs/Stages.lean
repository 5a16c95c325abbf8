import Mathlib.Data.List.Forall2
import InfixLogic.Fault

/- Stages in a row.

   The stages of an evaluation are computations that may fail, and a stage starts only where the
   one before it has succeeded. `bind_ok` and `bind_error` say how two of them in a row can end;
   the proofs take a failed or a finished evaluation apart with them. `mapM_ok_iff` and
   `mapM_error_iff` say it of one stage for each item of a list. `told_bind` is for evaluations that
   are compared by the reports of their faults. -/

namespace InfixLogic

variable {ε α β : Type} {x : Except ε α} {f : α → Except ε β}

theorem bind_ok {b : β} : (x >>= f) = .ok b ↔ ∃ a, x = .ok a ∧ f a = .ok b := by
  cases x <;> simp [bind, Except.bind]

theorem bind_error {e : ε} :
    (x >>= f) = .error e ↔ x = .error e ∨ ∃ a, x = .ok a ∧ f a = .error e := by
  cases x <;> simp [bind, Except.bind]

/-- What is only made of a result does not fail. -/
theorem bind_pure_error {e : ε} {g : α → β} :
    (x >>= fun a => pure (g a)) = .error e ↔ x = .error e := by
  cases x <;> simp [bind, pure, Except.bind, Except.pure]

/-- One stage for each item of a list succeeds if it does for each of them. -/
theorem mapM_ok_iff {xs : List α} {ys : List β} :
    xs.mapM f = .ok ys ↔ List.Forall₂ (fun x y => f x = .ok y) xs ys := by
  induction xs generalizing ys with
  | nil =>
    rw [List.mapM_nil, List.forall₂_nil_left_iff]
    exact ⟨fun h => (Except.ok.inj h).symm, fun h => h ▸ rfl⟩
  | cons x xs ih =>
    rw [List.mapM_cons, List.forall₂_cons_left_iff]
    constructor
    · intro h
      obtain ⟨y, hy, hrest⟩ := bind_ok.mp h
      obtain ⟨zs, hzs, hcons⟩ := bind_ok.mp hrest
      exact ⟨y, zs, hy, ih.mp hzs, (Except.ok.inj hcons).symm⟩
    · rintro ⟨y, zs, hy, hzs, rfl⟩
      rw [hy, ih.mpr hzs]
      rfl

/-- It fails as it does for the first item for which it fails. -/
theorem mapM_error_iff {xs : List α} {e : ε} :
    xs.mapM f = .error e ↔
      ∃ before x after, xs = before ++ x :: after ∧ (∀ y ∈ before, ∃ b, f y = .ok b) ∧
        f x = .error e := by
  induction xs with
  | nil => simp [pure, Except.pure]
  | cons x xs ih =>
    rw [List.mapM_cons]
    constructor
    · intro h
      rcases bind_error.mp h with hx | ⟨b, hb, hrest⟩
      · exact ⟨[], x, xs, rfl, by simp, hx⟩
      · obtain ⟨before, y, after, rfl, hbefore, hy⟩ := ih.mp (bind_pure_error.mp hrest)
        exact ⟨x :: before, y, after, rfl, List.forall_mem_cons.mpr ⟨⟨b, hb⟩, hbefore⟩, hy⟩
    · rintro ⟨before, y, after, hsplit, hbefore, hy⟩
      cases before with
      | nil =>
        obtain ⟨rfl, -⟩ := List.cons.inj hsplit
        rw [hy]
        rfl
      | cons z before =>
        obtain ⟨rfl, rfl⟩ := List.cons.inj hsplit
        obtain ⟨⟨b, hb⟩, hbefore⟩ := List.forall_mem_cons.mp hbefore
        rw [hb, ih.mpr ⟨before, y, after, rfl, hbefore, hy⟩]
        rfl

/-- A stage that always succeeds is a map. -/
theorem mapM_map_ok {γ : Type} {g : γ → α} {k : γ → β} {xs : List γ}
    (h : ∀ x ∈ xs, f (g x) = .ok (k x)) : (xs.map g).mapM f = .ok (xs.map k) := by
  rw [mapM_ok_iff, List.forall₂_map_left_iff, List.forall₂_map_right_iff, List.forall₂_same]
  exact h

/-- Computations that tell the same go on to tell the same. -/
theorem told_bind {κ : Type} {tell : ε → κ} {x y : Except ε α} {f g : α → Except ε β}
    (h : x.mapError tell = y.mapError tell)
    (hrest : ∀ a, (f a).mapError tell = (g a).mapError tell) :
    (x >>= f).mapError tell = (y >>= g).mapError tell := by
  cases x with
  | error e =>
    cases y with
    | error e' => exact congrArg Except.error (Except.error.inj h)
    | ok b => cases h
  | ok a =>
    cases y with
    | error e' => cases h
    | ok b =>
      obtain rfl : a = b := Except.ok.inj h
      exact hrest a

/-- Checks of one condition tell the same if their faults do. -/
theorem told_guard {κ : Type} {tell : ε → κ} {c : Prop} [Decidable c] {e e' : ε}
    (h : tell e = tell e') :
    Except.mapError tell (if c then .error e else .ok ()) =
      Except.mapError tell (if c then .error e' else .ok ()) := by
  split
  · exact congrArg Except.error h
  · rfl

end InfixLogic
