import InfixLogic.Proofs.Lexing

/- Texts with a blank between them.

   In front of a blank there is always a cut, and no lexeme has a blank in it. So a split of the first
   text goes on behind the blank with a split of the second (`tokenize_append_blank`), and what is
   refused in the first text is refused whatever follows the blank (`Refused.append_blank`). Where a
   text starts does not matter to how it is read but for the offsets and positions of its faults,
   which move along with it (`tokenizeFrom_error_iff_shifted`). -/

namespace InfixLogic

/-- A fault of a text, and the same fault where the text starts at an offset and behind some
tokens. -/
inductive Fault.Shifted (offset count : Nat) : Fault → Fault → Prop
  | unknownWord (word : Text) (o p : Nat) :
      Shifted offset count (.unknownWord word o p) (.unknownWord word (offset + o) (count + p))
  | unexpected (c : CodePoint) (o p : Nat) :
      Shifted offset count (.unexpected c o p) (.unexpected c (offset + o) (count + p))

namespace Vocabulary

variable {v : Vocabulary} {offset count o p : Nat} {w : CodePoint} {s t rest : Text}
  {ts : List Token} {f g : Fault}

/-! ## Elsewhere in a text -/

theorem refused_iff_shifted :
    v.Refused (offset + o) (count + p) rest g ↔
      ∃ f, v.Refused o p rest f ∧ f.Shifted offset count g := by
  constructor
  · rintro (⟨hl, hcut, hunknown⟩ | ⟨hblank, hno⟩)
    · exact ⟨_, .word hl hcut hunknown, .unknownWord _ o p⟩
    · exact ⟨_, .character hblank hno, .unexpected _ o p⟩
  · rintro ⟨f, ⟨hl, hcut, hunknown⟩ | ⟨hblank, hno⟩, hshifted⟩
    · cases hshifted
      exact .word hl hcut hunknown
    · cases hshifted
      exact .character hblank hno

theorem tokenizeFrom_ok_iff_tokenize (hv : v.Ranked) (offset count : Nat) :
    v.tokenizeFrom offset count s = .ok ts ↔ v.tokenize s = .ok ts :=
  (tokenizeFrom_ok_iff hv).trans (tokenizeFrom_ok_iff hv).symm

theorem tokenizeFrom_error_iff_shifted (hv : v.Ranked) :
    v.tokenizeFrom offset count s = .error g ↔
      ∃ f, v.tokenize s = .error f ∧ f.Shifted offset count g := by
  simp only [tokenize, tokenizeFrom_error_iff hv, Nat.zero_add]
  constructor
  · rintro ⟨ps, before, rest, ts, rfl, hsplits, hts, hrefused⟩
    obtain ⟨f, hf, hshifted⟩ := refused_iff_shifted.mp hrefused
    exact ⟨f, ⟨ps, before, rest, ts, rfl, hsplits, hts, hf⟩, hshifted⟩
  · rintro ⟨f, ⟨ps, before, rest, ts, rfl, hsplits, hts, hf⟩, hshifted⟩
    exact ⟨ps, before, rest, ts, rfl, hsplits, hts, refused_iff_shifted.mpr ⟨f, hf, hshifted⟩⟩

/-! ## In front of a blank -/

/-- Behind a text that is read, a blank is passed over and reading goes on. -/
theorem tokenize_append_blank (hv : v.Ranked) (hw : w.isBlank = true)
    (h : v.tokenize s = .ok ts) (t : Text) :
    v.tokenize (s ++ w :: t) = (v.tokenizeFrom (s.length + 1) ts.length t).map (ts ++ ·) := by
  obtain ⟨ps, hsplits, hts⟩ := (tokenizeFrom_ok_iff hv).mp h
  have hcut : Splits ps s (w :: t) := Splits.iff_apart.mpr ⟨hsplits, Text.apart_blank s hw t⟩
  rw [tokenize, tokenizeFrom_splits hv 0 0 hcut hts, tokenizeFrom_blank hw, Nat.zero_add,
    Nat.zero_add]

/-- A cut in a text is one whatever follows the text behind a blank. -/
theorem apart_append_blank (hw : w.isBlank = true) (h : Text.Apart s rest) (t : Text) :
    Text.Apart s (rest ++ w :: t) :=
  (Text.apart_append.mpr ⟨h, Text.apart_blank _ hw t⟩).1

/-- A lexeme ends in front of a blank. -/
theorem prefix_of_append_blank {l : Lexeme} (hl : l.Proper) (hw : w.isBlank = true)
    (h : l.text <+: s ++ w :: t) : l.text <+: s := by
  rcases List.prefix_or_prefix_of_prefix h (List.prefix_append s (w :: t)) with hshort | ⟨u, hu⟩
  · exact hshort
  · rw [← hu, List.prefix_append_right_inj] at h
    cases u with
    | nil => exact ⟨[], by rw [← hu, List.append_nil, List.append_nil]⟩
    | cons c u =>
      -- A longer prefix would take in the blank.
      obtain ⟨rfl, -⟩ := List.cons_prefix_cons.mp h
      have hno := Lexeme.isBlank_of_mem_text hl c (by simp [← hu])
      exact absurd (hno.symm.trans hw) Bool.false_ne_true

theorem Refused.append_blank (h : v.Refused o p s f) (hw : w.isBlank = true) (t : Text) :
    v.Refused o p (s ++ w :: t) f := by
  cases h with
  | word hl hcut hunknown =>
    rw [List.append_assoc]
    exact .word hl (apart_append_blank hw hcut t) hunknown
  | character hblank hno =>
    exact .character hblank fun l hl hprefix => hno l hl (prefix_of_append_blank hl hw hprefix)

theorem tokenize_error_append_blank (hv : v.Ranked) (hw : w.isBlank = true)
    (h : v.tokenize s = .error f) (t : Text) : v.tokenize (s ++ w :: t) = .error f := by
  obtain ⟨ps, before, rest, ts, rfl, hsplits, hts, hrefused⟩ := (tokenizeFrom_error_iff hv).mp h
  obtain ⟨hbefore, hcut⟩ := Splits.iff_apart.mp hsplits
  exact (tokenizeFrom_error_iff hv).mpr ⟨ps, before, rest ++ w :: t, ts, List.append_assoc _ _ _,
    Splits.iff_apart.mpr ⟨hbefore, apart_append_blank hw hcut t⟩, hts,
    hrefused.append_blank hw t⟩

end Vocabulary

open Vocabulary (standard)

/-- If the first of two texts with a blank between them is read, then the whole is read if the second
is, and gives the tokens of both; and it fails if the second does, at the same word or code point,
whose position is moved by the tokens and whose offset by the code points in front. If the first
text fails, the whole fails in the same way. -/
theorem tokenize_append (s t : Text) {w : CodePoint} (hw : w.isBlank = true) :
    (∀ ts, standard.tokenize s = .ok ts →
      (∀ rs, standard.tokenize (s ++ w :: t) = .ok rs ↔
        ∃ us, standard.tokenize t = .ok us ∧ rs = ts ++ us) ∧
      ∀ g, standard.tokenize (s ++ w :: t) = .error g ↔
        ∃ f, standard.tokenize t = .error f ∧ f.Shifted (s.length + 1) ts.length g) ∧
    ∀ f, standard.tokenize s = .error f → standard.tokenize (s ++ w :: t) = .error f := by
  have hv := Vocabulary.standard_conventional.toRanked
  refine ⟨fun ts hts => ?_, fun f hf => Vocabulary.tokenize_error_append_blank hv hw hf t⟩
  have hjoined := Vocabulary.tokenize_append_blank hv hw hts t
  refine ⟨fun rs => ?_, fun g => ?_⟩
  · simp only [hjoined, ← Vocabulary.tokenizeFrom_ok_iff_tokenize hv (s.length + 1) ts.length]
    cases standard.tokenizeFrom (s.length + 1) ts.length t <;> simp [Except.map, eq_comm]
  · rw [hjoined, ← Vocabulary.tokenizeFrom_error_iff_shifted hv]
    cases standard.tokenizeFrom (s.length + 1) ts.length t <;> simp [Except.map]

/-- The cases of `A &` in front of `& B`, which is no symbol, and of `!` and `A|`. -/
theorem tokenize_append_half_symbol :
    standard.tokenize (("A &" : Text) ++ .char ' ' :: "& B") = .error (.unexpected (.char '&') 2 1) ∧
    ∃ f, standard.tokenize "A|" = .error f ∧ f.Shifted 2 1 (.unexpected (.char '|') 3 2) := by
  have hblank : (CodePoint.char ' ').isBlank = true := by decide
  refine ⟨(tokenize_append "A &" "& B" hblank).2 _ (by decide +kernel), ?_⟩
  exact (((tokenize_append "!" "A|" hblank).1 [standard.operator .not] (by decide +kernel)).2 _).mp
    (by decide +kernel)

end InfixLogic
