import InfixLogic.Proofs.Conversion

/- Balanced parentheses.

   `Balanced ts`: no prefix of `ts` closes more parentheses than it opens, and in the end none is
   left open. The scan does not look at this, and the conversion looks at nothing else:
   `toPostfix_ok_iff_balanced` says that a list of tokens has a postfix form exactly if it is
   balanced. The markers on the stack count the parentheses that are open. -/

namespace InfixLogic

/-- The number of opening parentheses. -/
def Token.openings (ts : List Token) : Nat := ts.countP (·.tag == .leftParen)

/-- The number of closing parentheses. -/
def Token.closings (ts : List Token) : Nat := ts.countP (·.tag == .rightParen)

open Token (openings closings)

/-- Parentheses match where `depth` of them are open before the first token. -/
structure BalancedFrom (depth : Nat) (ts : List Token) : Prop where
  prefixes : ∀ p, p <+: ts → closings p ≤ depth + openings p
  total : closings ts = depth + openings ts

/-- Parentheses match: no prefix closes more of them than it opens, and all are closed in the
end. -/
def Balanced (ts : List Token) : Prop := BalancedFrom 0 ts

theorem openings_cons (t : Token) (ts : List Token) :
    openings (t :: ts) = openings [t] + openings ts := by
  simp only [openings, List.countP_cons, List.countP_nil]
  omega

theorem closings_cons (t : Token) (ts : List Token) :
    closings (t :: ts) = closings [t] + closings ts := by
  simp only [closings, List.countP_cons, List.countP_nil]
  omega

namespace BalancedFrom

variable {depth : Nat} {t : Token} {ts : List Token}

theorem nil_iff : BalancedFrom depth [] ↔ depth = 0 := by
  constructor
  · intro h
    have := h.total
    simp only [openings, closings, List.countP_nil] at this
    omega
  · rintro rfl
    exact ⟨fun p hp => by simp [List.prefix_nil.mp hp, openings, closings], rfl⟩

/-- The first token must not close too much, and the rest starts from the depth behind it. -/
theorem cons_iff : BalancedFrom depth (t :: ts) ↔
    closings [t] ≤ depth + openings [t] ∧
      BalancedFrom (depth + openings [t] - closings [t]) ts := by
  constructor
  · intro h
    have hfirst := h.prefixes [t] (by simp)
    refine ⟨hfirst, ?_, ?_⟩
    · intro p hp
      have := h.prefixes (t :: p) ((List.prefix_cons_inj t).mpr hp)
      rw [openings_cons, closings_cons] at this
      omega
    · have := h.total
      rw [openings_cons, closings_cons] at this
      omega
  · rintro ⟨hfirst, h⟩
    refine ⟨?_, ?_⟩
    · intro p hp
      rcases List.prefix_cons_iff.mp hp with rfl | ⟨q, rfl, hq⟩
      · simp [closings]
      · have := h.prefixes q hq
        rw [openings_cons, closings_cons]
        omega
    · have := h.total
      rw [openings_cons, closings_cons]
      omega

theorem open_iff (ht : t.tag = .leftParen) :
    BalancedFrom depth (t :: ts) ↔ BalancedFrom (depth + 1) ts := by
  simp [cons_iff, openings, closings, ht]

theorem close_iff (ht : t.tag = .rightParen) :
    BalancedFrom depth (t :: ts) ↔ ∃ d, depth = d + 1 ∧ BalancedFrom d ts := by
  cases depth with
  | zero => simp [cons_iff, openings, closings, ht]
  | succ d => simp [cons_iff, openings, closings, ht]

theorem neutral_iff (ht : t.isGrouper = false) :
    BalancedFrom depth (t :: ts) ↔ BalancedFrom depth ts := by
  simp only [Token.isGrouper, Bool.or_eq_false_iff, beq_eq_false_iff_ne] at ht
  simp [cons_iff, openings, closings, ht.1, ht.2]

/-- Only the kinds of tokens have a say. -/
theorem map_canonicalToken_iff (v : Vocabulary) :
    BalancedFrom depth (ts.map v.canonicalToken) ↔ BalancedFrom depth ts := by
  induction ts generalizing depth with
  | nil => rfl
  | cons t ts ih => simp [cons_iff, openings, closings, ih]

end BalancedFrom

namespace Balanced

variable {t : Token} {ts : List Token}

/-- Nothing is closed at the beginning. -/
theorem tag_of_head? (h : Balanced ts) (ht : t ∈ ts.head?) : t.tag ≠ .rightParen := by
  intro htag
  rw [Balanced, ← List.cons_head?_tail ht, BalancedFrom.close_iff htag] at h
  obtain ⟨d, hd, -⟩ := h
  cases hd

/-- Nothing is opened at the end. -/
theorem tag_of_getLast? (h : Balanced ts) (ht : t ∈ ts.getLast?) : t.tag ≠ .leftParen := by
  intro htag
  obtain ⟨us, rfl⟩ := List.getLast?_eq_some_iff.mp ht
  have hprefix := h.prefixes us (List.prefix_append us [t])
  have htotal := h.total
  simp only [openings, closings, List.countP_append, List.countP_singleton, htag] at hprefix htotal
  simp at htotal
  omega

end Balanced

/-! ## Balance and conversion -/

namespace Conversion

/-- The number of parentheses that are open. -/
def markers (s : Conversion) : Nat := openings s.stack

theorem markers_eq_zero {s : Conversion} :
    s.markers = 0 ↔ ∀ t ∈ s.stack, t.tag ≠ .leftParen := by
  simp [markers, openings, List.countP_eq_zero]

theorem Moves.markers {t : Token} {s s' : Conversion} (h : Moves t s s') :
    s'.markers + closings [t] = s.markers + openings [t] := by
  cases h with
  | operand tag output stack => simp [Conversion.markers, openings, closings, tag]
  | operator tag output ops rest released kept =>
    have hops : openings ops = 0 :=
      List.countP_eq_zero.mpr fun o ho => by simp [operator_of_yields (released o ho)]
    simp only [openings] at hops
    simp [Conversion.markers, openings, closings, tag, hops]
  | leftParen tag output stack => simp [Conversion.markers, openings, closings, tag]
  | rightParen tag output ops rest m released marker =>
    have hops : openings ops = 0 :=
      List.countP_eq_zero.mpr fun o ho => by simpa using released o ho
    simp only [openings] at hops
    simp [Conversion.markers, openings, closings, tag, marker, hops]

/-- A run ends with no parenthesis open exactly if the tokens balance those open before it. -/
theorem run_balanced_iff {i : Nat} {s : Conversion} {ts : List Token} :
    (∃ s', run i s ts = .ok s' ∧ s'.markers = 0) ↔ BalancedFrom s.markers ts := by
  -- The markers are the depth: a token moves both by the same amount, and fails where the depth
  -- would fall below zero.
  induction ts generalizing i s with
  | nil => simp [run, BalancedFrom.nil_iff]
  | cons t ts ih =>
    rw [BalancedFrom.cons_iff]
    constructor
    · rintro ⟨s', h, hs'⟩
      obtain ⟨m, hm, hrun⟩ := run_cons_ok h
      have hmarkers := hm.markers
      have hbal := ih.mp ⟨s', hrun, hs'⟩
      rw [show m.markers = s.markers + openings [t] - closings [t] by omega] at hbal
      exact ⟨by omega, hbal⟩
    · rintro ⟨hfirst, hbal⟩
      cases hs : s.step i t with
      | error f =>
        obtain ⟨-, htag, hno⟩ := step_error hs
        rw [markers_eq_zero.mpr hno] at hfirst
        simp [openings, closings, htag] at hfirst
      | ok m =>
        have hm := moves_of_step hs
        have hmarkers := hm.markers
        rw [show s.markers + openings [t] - closings [t] = m.markers by omega] at hbal
        rw [run_cons hm]
        exact ih.mpr hbal

end Conversion

/-- A list of tokens has a postfix form exactly if its parentheses match. -/
theorem Vocabulary.toPostfix_ok_iff_balanced (v : Vocabulary) (ts : List Token) :
    (∃ us, v.toPostfix (Token.items ts) = .ok us) ↔ Balanced ts := by
  rw [Balanced, ← BalancedFrom.map_canonicalToken_iff v]
  refine Iff.trans ?_ (Conversion.run_balanced_iff (i := 0) (s := .start))
  rcases v.toPostfix_cases ts with ⟨s, hrun, hno, hs⟩ | ⟨f, hrun, hf⟩ | ⟨s, hrun, ⟨m, hm, htag⟩, hs⟩
  · simp [hrun, hs, Conversion.markers_eq_zero.mpr hno]
  · simp [hrun, hf]
  · have : s.markers ≠ 0 := fun h => Conversion.markers_eq_zero.mp h m hm htag
    simp [hrun, hs, this]

/-- The conversion fails at the first closing parenthesis that nothing opens, or else in the end
for a parenthesis that stays open. -/
theorem Vocabulary.toPostfix_error {v : Vocabulary} {ts : List Token} {f : Fault}
    (h : v.toPostfix (Token.items ts) = .error f) :
    f = .unmatchedOpening ∨ ∃ xs t ys, ts = xs ++ t :: ys ∧ t.tag = .rightParen ∧ Balanced xs ∧
      f = .unmatchedClosing xs.length := by
  rcases v.toPostfix_cases ts with ⟨s, -, -, hs⟩ | ⟨g, hrun, hg⟩ | ⟨s, -, -, hs⟩
  · cases h.symm.trans hs
  · obtain rfl := Except.error.inj (h.symm.trans hg)
    obtain ⟨xs, t, ys, m, hsplit, hxs, rfl, htag, hno⟩ := Conversion.run_error hrun
    obtain ⟨xs, ts', rfl, rfl, hrest⟩ := List.map_eq_append_iff.mp hsplit
    obtain ⟨t, ys, rfl, rfl, -⟩ := List.map_eq_cons_iff.mp hrest
    -- Nothing is open where the run stops, so what it has read is balanced.
    have hbal : Balanced (xs.map v.canonicalToken) :=
      Conversion.run_balanced_iff.mp ⟨m, hxs, Conversion.markers_eq_zero.mpr hno⟩
    refine .inr ⟨xs, t, ys, rfl, by simpa using htag, ?_, by simp⟩
    exact BalancedFrom.map_canonicalToken_iff v |>.mp hbal
  · exact .inl (Except.error.inj (h.symm.trans hs))

end InfixLogic
