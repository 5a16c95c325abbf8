import Mathlib.Order.Bounds.Basic
import InfixLogic.Proofs.Balance

/- Pairs of parentheses.

   An opening and a closing parenthesis are a pair if what stands between them is balanced
   (`Encloses`). Where no prefix closes more parentheses than it opens, every closing one has its
   partner (`exists_encloses`); behind balanced tokens it has none (`not_encloses_of_balanced`).

   So the first closing parenthesis without a partner is the one at which the conversion stops. If
   there is no such parenthesis and the conversion still fails, one stays open, and the fault has no
   position (`position_of_toPostfix_error`). -/

namespace InfixLogic

open Token (openings closings)

theorem openings_append (xs ys : List Token) :
    openings (xs ++ ys) = openings xs + openings ys := List.countP_append

theorem closings_append (xs ys : List Token) :
    closings (xs ++ ys) = closings xs + closings ys := List.countP_append

theorem counts_of_leftParen {t : Token} (h : t.tag = .leftParen) :
    openings [t] = 1 ∧ closings [t] = 0 := by simp [openings, closings, h]

theorem counts_of_rightParen {t : Token} (h : t.tag = .rightParen) :
    openings [t] = 0 ∧ closings [t] = 1 := by simp [openings, closings, h]

theorem counts_of_neutral {t : Token} (h : t.isGrouper = false) :
    openings [t] = 0 ∧ closings [t] = 0 := by
  simp only [Token.isGrouper, Bool.or_eq_false_iff, beq_eq_false_iff_ne] at h
  simp [openings, closings, h.1, h.2]

/-! ## Balance -/

/-- What closes the parentheses that were open before can be put behind what closes its own. -/
theorem BalancedFrom.append {a b : Nat} {xs ys : List Token} (h : BalancedFrom a xs)
    (h' : BalancedFrom b ys) : BalancedFrom (a + b) (xs ++ ys) := by
  induction xs generalizing a with
  | nil =>
    obtain rfl := BalancedFrom.nil_iff.mp h
    simpa using h'
  | cons x xs ih =>
    obtain ⟨hfirst, hrest⟩ := BalancedFrom.cons_iff.mp h
    have hdepth : a + openings [x] - closings [x] + b = a + b + openings [x] - closings [x] := by
      omega
    rw [List.cons_append, BalancedFrom.cons_iff, ← hdepth]
    exact ⟨by omega, ih hrest⟩

namespace Balanced

variable {l r t : Token} {es xs ys : List Token}

theorem nil : Balanced [] := BalancedFrom.nil_iff.mpr rfl

theorem append (h : Balanced xs) (h' : Balanced ys) : Balanced (xs ++ ys) :=
  BalancedFrom.append h h'

theorem neutral (h : t.isGrouper = false) : Balanced [t] := (BalancedFrom.neutral_iff h).mpr nil

theorem enclosed (hl : l.tag = .leftParen) (hr : r.tag = .rightParen) (h : Balanced es) :
    Balanced (l :: (es ++ [r])) := by
  have hclose : BalancedFrom 1 [r] := (BalancedFrom.close_iff hr).mpr ⟨0, rfl, nil⟩
  exact (BalancedFrom.open_iff hl).mpr (BalancedFrom.append h hclose)

end Balanced

/-- No prefix closes more parentheses than it opens. -/
def Covered (ts : List Token) : Prop := ∀ p, p <+: ts → closings p ≤ openings p

theorem Covered.of_prefix {xs ts : List Token} (h : Covered ts) (hx : xs <+: ts) : Covered xs :=
  fun p hp => h p (hp.trans hx)

/-! ## Pairs -/

/-- The parentheses at two places are a pair: what stands between them is balanced. -/
inductive Encloses : List Token → Nat → Nat → Prop where
  | intro {xs es ys : List Token} {l r : Token} (opening : l.tag = .leftParen)
      (closing : r.tag = .rightParen) (inner : Balanced es) :
      Encloses (xs ++ l :: (es ++ r :: ys)) xs.length (xs.length + 1 + es.length)

/-- At a place stands a closing parenthesis that has no partner. -/
structure Unmatched (ts : List Token) (j : Nat) : Prop where
  closing : ∃ r, ts[j]? = some r ∧ r.tag = .rightParen
  unpaired : ∀ i, ¬ Encloses ts i j

/-- Only the kinds of tokens have a say. -/
theorem Encloses.map_canonicalToken {ts : List Token} {i j : Nat} (h : Encloses ts i j)
    (v : Vocabulary) : Encloses (ts.map v.canonicalToken) i j := by
  cases h with
  | @intro xs es ys l r opening closing inner =>
    have hpair (xs ys : List Token) := @Encloses.intro xs (es.map v.canonicalToken) ys _ _
      ((v.canonicalToken_tag l).trans opening) ((v.canonicalToken_tag r).trans closing)
      ((BalancedFrom.map_canonicalToken_iff v).mpr inner)
    simpa using hpair (xs.map v.canonicalToken) (ys.map v.canonicalToken)

/-- Where a parenthesis is still open, the tokens behind the last such one are balanced. -/
theorem exists_open {ts : List Token} (h : Covered ts) (hopen : closings ts < openings ts) :
    ∃ xs l es, ts = xs ++ l :: es ∧ l.tag = .leftParen ∧ Balanced es := by
  induction hn : ts.length using Nat.strong_induction_on generalizing ts with
  | h n ih =>
    subst hn
    rcases List.eq_nil_or_concat' ts with rfl | ⟨us, t, rfl⟩
    · cases hopen
    have hus : Covered us := h.of_prefix (List.prefix_append us [t])
    have hlen : us.length < (us ++ [t]).length := by simp
    rw [openings_append, closings_append] at hopen
    cases htag : t.tag with
    | leftParen => exact ⟨us, t, [], rfl, htag, .nil⟩
    | rightParen =>
      -- The parenthesis closes the last open one, so the one below that is looked for.
      have hcount := counts_of_rightParen htag
      obtain ⟨xs, l, es, rfl, hl, hes⟩ := ih _ hlen hus (by omega) rfl
      have hxs : closings xs < openings xs := by
        have hl' := counts_of_leftParen hl
        have htotal := hes.total
        rw [openings_append, closings_append, openings_cons, closings_cons] at hopen
        omega
      have hshort : xs.length < (xs ++ l :: es ++ [t]).length := by simp
      obtain ⟨xs, k, fs, rfl, hk, hfs⟩ :=
        ih _ hshort (hus.of_prefix (List.prefix_append xs _)) hxs rfl
      exact ⟨xs, k, fs ++ l :: (es ++ [t]), by simp, hk, hfs.append (.enclosed hl htag hes)⟩
    | operand | operator =>
      have hneutral : t.isGrouper = false := by simp [Token.isGrouper, htag]
      have hcount := counts_of_neutral hneutral
      obtain ⟨xs, l, es, rfl, hl, hes⟩ := ih _ hlen hus (by omega) rfl
      exact ⟨xs, l, es ++ [t], by simp, hl, hes.append (.neutral hneutral)⟩

/-- A closing parenthesis has a partner if no prefix up to it closes too much. -/
theorem exists_encloses {xs : List Token} {r : Token} (h : Covered (xs ++ [r]))
    (hr : r.tag = .rightParen) (ys : List Token) : ∃ i, Encloses (xs ++ r :: ys) i xs.length := by
  have hcount := counts_of_rightParen hr
  have hopen := h (xs ++ [r]) List.prefix_rfl
  rw [openings_append, closings_append] at hopen
  obtain ⟨us, l, es, rfl, hl, hes⟩ :=
    exists_open (h.of_prefix (List.prefix_append xs [r])) (by omega)
  refine ⟨us.length, ?_⟩
  have hpair : Encloses (us ++ l :: (es ++ r :: ys)) us.length (us.length + 1 + es.length) :=
    .intro hl hr hes
  have hlen : (us ++ l :: es).length = us.length + 1 + es.length := by simp; omega
  rw [hlen, List.append_assoc, List.cons_append]
  exact hpair

/-- Behind balanced tokens a closing parenthesis has no partner. -/
theorem not_encloses_of_balanced {xs ys : List Token} {r : Token} (h : Balanced xs) (i : Nat) :
    ¬ Encloses (xs ++ r :: ys) i xs.length := by
  generalize hts : xs ++ r :: ys = ts
  generalize hj : xs.length = j
  rintro ⟨hl, hr, hes⟩
  rename_i us es ws l s
  rw [← List.cons_append, ← List.append_assoc] at hts
  obtain ⟨rfl, -⟩ := List.append_inj hts (by simp; omega)
  -- What stands in front of the pair would close more than it opens.
  have hfront := h.prefixes us (List.prefix_append us _)
  have htotal := h.total
  have hinner := hes.total
  have hcount := counts_of_leftParen hl
  rw [openings_append, closings_append, openings_cons, closings_cons] at htotal
  omega

/-- Where no prefix closes too much, no parenthesis lacks its partner. -/
theorem Covered.not_unmatched {xs : List Token} (h : Covered xs) (ys : List Token) {j : Nat}
    (hj : j < xs.length) : ¬ Unmatched (xs ++ ys) j := by
  rintro ⟨⟨r, hr, htag⟩, hunpaired⟩
  rw [List.getElem?_append_left hj, List.getElem?_eq_some_iff] at hr
  obtain ⟨_, rfl⟩ := hr
  have hsplit : xs = xs.take j ++ xs[j] :: xs.drop (j + 1) := by simp
  have hcovered : Covered (xs.take j ++ [xs[j]]) :=
    h.of_prefix (by rw [List.take_append_getElem]; exact List.take_prefix _ _)
  obtain ⟨i, hi⟩ := exists_encloses hcovered htag (xs.drop (j + 1) ++ ys)
  rw [← List.cons_append, ← List.append_assoc, ← hsplit, List.length_take,
    Nat.min_eq_left hj.le] at hi
  exact hunpaired i hi

/-! ## The conversion -/

namespace Conversion

theorem markers_run {i : Nat} {s s' : Conversion} {ts : List Token} (h : run i s ts = .ok s') :
    s'.markers + closings ts = s.markers + openings ts := by
  induction ts generalizing i s with
  | nil =>
    obtain rfl := Except.ok.inj h
    rfl
  | cons t ts ih =>
    obtain ⟨m, hm, hrun⟩ := run_cons_ok h
    have hmove := hm.markers
    have hrest := ih hrun
    rw [openings_cons, closings_cons]
    omega

/-- A run from the beginning never closes more than it has opened. -/
theorem covered_of_run {i : Nat} {s : Conversion} {ts : List Token} (h : run i .start ts = .ok s) :
    Covered ts := by
  rintro p ⟨rest, rfl⟩
  rw [run_append] at h
  obtain ⟨m, hm, -⟩ := bind_ok.mp h
  have hmarkers := markers_run hm
  have hstart : start.markers = 0 := rfl
  omega

end Conversion

theorem Covered.of_canonical {v : Vocabulary} {ts : List Token}
    (h : Covered (ts.map v.canonicalToken)) : Covered ts := by
  intro p hp
  have hmap := h _ (hp.map v.canonicalToken)
  simpa [openings, closings, List.countP_map, Function.comp_def] using hmap

/-- A conversion that fails tells the first closing parenthesis without a partner, and no place if
there is none. -/
theorem Vocabulary.position_of_toPostfix_error {v : Vocabulary} {ts : List Token} {f : Fault}
    (h : v.toPostfix (Token.items ts) = .error f) :
    (∃ j, f = .unmatchedClosing j ∧ IsLeast {q | Unmatched ts q} j) ∨
      f = .unmatchedOpening ∧ ∀ q, ¬ Unmatched ts q := by
  rcases toPostfix_error h with rfl | ⟨xs, r, ys, rfl, hr, hxs, rfl⟩
  · rcases v.toPostfix_cases ts with ⟨s, -, -, hs⟩ | ⟨g, hrun, hg⟩ | ⟨s, hrun, -, -⟩
    · cases h.symm.trans hs
    · obtain ⟨xs, t, ys, m, -, -, rfl, -, -⟩ := Conversion.run_error hrun
      cases h.symm.trans hg
    · refine .inr ⟨rfl, fun q hq => ?_⟩
      obtain ⟨r, hr, -⟩ := hq.closing
      obtain ⟨hlt, -⟩ := List.getElem?_eq_some_iff.mp hr
      have hcovered : Covered ts := .of_canonical (Conversion.covered_of_run hrun)
      exact hcovered.not_unmatched [] hlt (by simpa using hq)
  · refine .inl ⟨xs.length, rfl, ⟨⟨r, by simp, hr⟩, not_encloses_of_balanced hxs⟩, fun q hq => ?_⟩
    have hcovered : Covered xs := fun p hp => by simpa using hxs.prefixes p hp
    exact Nat.le_of_not_lt fun hlt => hcovered.not_unmatched _ hlt hq

end InfixLogic
