import InfixLogic.Proofs.Surface

/- The lexical grammar.

   A text is split into blanks and lexemes by cuts that go through no run of letters and numerals
   (`Splits`), so every word is a longest run. There is at most one split of a text
   (`Splits.unique`), as a lexeme can be told from any text that goes on behind a cut.

   Reading follows a split piece by piece (`tokenizeFrom_splits`). Where it ends, nothing of the text
   is left, or there starts a word that is no operand's name, or what starts there is neither blank
   nor a lexeme (`Refused`). Every text can be split up to such a place (`exists_splits`), so what
   is read from a text, and where it fails, is known by its splits alone (`tokenizeFrom_ok_iff`,
   `tokenizeFrom_error_iff`). -/

namespace InfixLogic

/-! ## Splits -/

/-- A blank or a lexeme. -/
inductive Piece where
  | blank (c : CodePoint)
  | lexeme (l : Lexeme)

namespace Piece

def text : Piece → Text
  | .blank c => [c]
  | .lexeme l => l.text

def Proper : Piece → Prop
  | .blank c => c.isBlank = true
  | .lexeme l => l.Proper

def lexeme? : Piece → Option Lexeme
  | .blank _ => none
  | .lexeme l => some l

/-- The lexemes among the pieces. -/
def lexemes (ps : List Piece) : List Lexeme := ps.filterMap lexeme?

end Piece

/-- The pieces make up a text in front of a rest, and no cut behind a piece goes through a run of
letters and numerals. -/
inductive Splits : List Piece → Text → Text → Prop
  | nil (rest : Text) : Splits [] [] rest
  | cons {p : Piece} {ps : List Piece} {s rest : Text} (proper : p.Proper)
      (cut : Text.Apart p.text (s ++ rest)) (tail : Splits ps s rest) :
      Splits (p :: ps) (p.text ++ s) rest

namespace Lexeme

/-- There is a cut behind a parenthesis and behind a symbol. -/
theorem apart_mark {s : Text} (h : s.getLast?.any CodePoint.isAlphanumeric = false) (t : Text) :
    Text.Apart s t := by
  rintro c hc d - ⟨hc', -⟩
  rw [Option.mem_def.mp hc, Option.any_some, hc'] at h
  cases h

/-- A lexeme is found exactly where it stands in front of a cut. -/
theorem ofText?_eq_some_iff {s : Text} {l : Lexeme} :
    ofText? s = some l ↔ ∃ rest, s = l.text ++ rest ∧ l.Proper ∧ Text.Apart l.text rest := by
  constructor
  · intro h
    unfold ofText? at h
    split at h
    case h_1 => cases h
    case h_7 c rest _ _ _ _ _ =>
      split at h
      case isFalse => cases h
      case isTrue hletter =>
        obtain rfl := Option.some.inj h
        refine ⟨rest.dropWhile CodePoint.isAlphanumeric, ?_, ⟨hletter, ?_⟩, ?_⟩
        · rw [text, List.cons_append, List.takeWhile_append_dropWhile]
        · exact List.all_eq_true.mp List.all_takeWhile
        · rintro - - d hd ⟨-, hd'⟩
          have hstop := List.head?_dropWhile_not CodePoint.isAlphanumeric rest
          rw [Option.mem_def.mp hd] at hstop
          exact Bool.false_ne_true (hstop.symm.trans hd')
    all_goals
      obtain rfl := Option.some.inj h
      exact ⟨_, rfl, trivial, apart_mark (by decide +kernel) _⟩
  · rintro ⟨rest, rfl, hl, hcut⟩
    exact ofText?_append hl hcut

/-- No lexeme is found exactly where none starts. -/
theorem ofText?_eq_none_iff {s : Text} :
    ofText? s = none ↔ ∀ l : Lexeme, l.Proper → ¬ l.text <+: s := by
  constructor
  · rintro h l hl ⟨rest, rfl⟩
    cases l with
    | leftParen | rightParen => cases h
    | connective c => cases c <;> cases h
    | word initial cs =>
      rw [text, List.cons_append, ofText?_letter hl.1] at h
      cases h
  · intro h
    cases hs : ofText? s with
    | none => rfl
    | some l =>
      obtain ⟨rest, rfl, hl, -⟩ := ofText?_eq_some_iff.mp hs
      exact absurd (List.prefix_append _ _) (h l hl)

end Lexeme

namespace Piece

theorem text_ne_nil (p : Piece) : p.text ≠ [] := by
  cases p with
  | blank c => exact List.cons_ne_nil c []
  | lexeme l => exact List.length_pos_iff.mp l.length_text_pos

/-- The piece that a text starts with. -/
def ofText? : Text → Option Piece
  | [] => none
  | c :: s => if c.isBlank then some (.blank c) else (Lexeme.ofText? (c :: s)).map .lexeme

/-- A piece is found in front of a cut. -/
theorem ofText?_append {p : Piece} (hp : p.Proper) {s : Text} (h : Text.Apart p.text s) :
    ofText? (p.text ++ s) = some p := by
  cases p with
  | blank c => exact if_pos hp
  | lexeme l =>
    obtain ⟨c, cs, htext, hblank, hfound⟩ := Lexeme.exists_cons_of_apart hp h
    rw [text, htext, ofText?, hblank, if_neg Bool.false_ne_true, hfound]
    rfl

end Piece

namespace Splits

variable {ps qs : List Piece} {s rest : Text}

/-- A split stays one in front of another rest, if there is a cut between the two. -/
theorem iff_apart : Splits ps s rest ↔ Splits ps s [] ∧ Text.Apart s rest := by
  constructor
  · intro h
    induction h with
    | nil rest => exact ⟨.nil _, by simp [Text.Apart]⟩
    | cons hp hcut _ ih =>
      -- The first piece, the others and the rest are three texts in a row.
      obtain ⟨hfirst, hlast⟩ := Text.apart_append.mp ⟨hcut, ih.2⟩
      exact ⟨.cons hp (by rwa [List.append_nil]) ih.1, hlast⟩
  · rintro ⟨h, hlast⟩
    generalize hnil : ([] : Text) = t at h
    induction h with
    | nil => exact .nil rest
    | @cons p ps s t hp hcut _ ih =>
      subst hnil
      rw [List.append_nil] at hcut
      obtain ⟨hfirst, hrest⟩ := Text.apart_append.mpr ⟨hcut, hlast⟩
      exact .cons hp hfirst (ih hrest rfl)

/-- A text is split in one way only. -/
theorem unique (hps : Splits ps s rest) (hqs : Splits qs s rest) : ps = qs := by
  induction hps generalizing qs with
  | nil rest =>
    generalize hs : ([] : Text) = s at hqs
    cases hqs with
    | nil => rfl
    | @cons q => exact absurd (List.append_eq_nil_iff.mp hs.symm).1 q.text_ne_nil
  | @cons p ps s rest hp hcut _ ih =>
    generalize hs : p.text ++ s = t at hqs
    cases hqs with
    | nil => exact absurd (List.append_eq_nil_iff.mp hs).1 p.text_ne_nil
    | @cons q qs t _ hq hcut' htail =>
      -- Both splits start with the piece that is found in front of the text.
      have hfirst : p = q := by
        refine Option.some.inj ((Piece.ofText?_append hp hcut).symm.trans ?_)
        rw [← List.append_assoc, hs, List.append_assoc]
        exact Piece.ofText?_append hq hcut'
      subst hfirst
      rw [List.append_cancel_left hs] at ih
      rw [ih htail]

end Splits

/-! ## Tokens -/

namespace Lexeme

/-- The token of a lexeme: a word is that operand's whose name is its upper-case form. -/
inductive Means (v : Vocabulary) : Lexeme → Token → Prop
  | leftParen : Means v .leftParen .leftParen
  | rightParen : Means v .rightParen .rightParen
  | connective (c : Connective) : Means v (.connective c) (v.operator c)
  | word {initial : CodePoint} {cs : Text} {t : Token} (operand : t ∈ v.operands)
      (name : t.name = Text.upper (initial :: cs)) : Means v (.word initial cs) t

variable {v : Vocabulary}

theorem token?_eq_some_iff (hv : v.Ranked) {l : Lexeme} {t : Token} :
    l.token? v = some t ↔ l.Means v t := by
  constructor
  · intro h
    cases l with
    | leftParen => exact Option.some.inj h ▸ .leftParen
    | rightParen => exact Option.some.inj h ▸ .rightParen
    | connective c => exact Option.some.inj h ▸ .connective c
    | word initial cs =>
      obtain ⟨hop, hname⟩ := (Vocabulary.operand?_iff hv).mp h
      exact .word hop hname
  · rintro (_ | _ | c | ⟨hop, hname⟩)
    · rfl
    · rfl
    · rfl
    · exact (Vocabulary.operand?_iff hv).mpr ⟨hop, hname⟩

theorem token?_word_eq_none_iff (hv : v.Ranked) {initial : CodePoint} {cs : Text} :
    (word initial cs).token? v = none ↔
      ∀ t ∈ v.operands, t.name ≠ Text.upper (initial :: cs) := by
  rw [Option.eq_none_iff_forall_ne_some]
  simp only [ne_eq, token?_eq_some_iff hv]
  exact ⟨fun h t hop hname => h t (.word hop hname), fun h t hmeans => by
    cases hmeans with
    | word hop hname => exact h t hop hname⟩

end Lexeme

namespace Vocabulary

variable {v : Vocabulary} {offset count : Nat} {ps : List Piece} {s rest : Text} {ts : List Token}
  {f : Fault}

/-- What stops the reading of a text at an offset, behind some tokens: a word that is no operand's
name, or a code point that is not blank and starts no lexeme. -/
inductive Refused (v : Vocabulary) (offset count : Nat) : Text → Fault → Prop
  | word {initial : CodePoint} {cs rest : Text} (proper : (Lexeme.word initial cs).Proper)
      (cut : Text.Apart (initial :: cs) rest)
      (unknown : ∀ t ∈ v.operands, t.name ≠ Text.upper (initial :: cs)) :
      Refused v offset count (initial :: cs ++ rest) (.unknownWord (initial :: cs) offset count)
  | character {c : CodePoint} {rest : Text} (notBlank : c.isBlank = false)
      (noLexeme : ∀ l : Lexeme, l.Proper → ¬ l.text <+: c :: rest) :
      Refused v offset count (c :: rest) (.unexpected c offset count)

theorem Refused.kind (h : v.Refused offset count s f) : f.kind = .unknownToken := by
  cases h <;> rfl

theorem Refused.position (h : v.Refused offset count s f) : f.position = some count := by
  cases h <;> rfl

/-- The tokens of pieces, those of their lexemes. -/
def Reads (v : Vocabulary) (ps : List Piece) (ts : List Token) : Prop :=
  List.Forall₂ (Lexeme.Means v) (Piece.lexemes ps) ts

/-- Reading follows a split. -/
theorem tokenizeFrom_splits (hv : v.Ranked) (offset count : Nat) (h : Splits ps s rest)
    (hts : v.Reads ps ts) :
    v.tokenizeFrom offset count (s ++ rest) =
      (v.tokenizeFrom (offset + s.length) (count + ts.length) rest).map (ts ++ ·) := by
  induction h generalizing offset count ts with
  | nil rest =>
    obtain rfl := List.forall₂_nil_left_iff.mp hts
    cases hrest : v.tokenizeFrom offset count rest <;> simp [hrest, Except.map]
  | @cons p ps s rest hp hcut _ ih =>
    rw [List.append_assoc, List.length_append]
    cases p with
    | blank w =>
      rw [Piece.text, List.singleton_append, tokenizeFrom_blank hp, ih _ _ hts, List.length_singleton,
        Nat.add_assoc]
    | lexeme l =>
      obtain ⟨t, us, ht, hus, rfl⟩ := List.forall₂_cons_left_iff.mp hts
      rw [Piece.text, tokenizeFrom_lexeme hp ((Lexeme.token?_eq_some_iff hv).mpr ht) hcut, ih _ _ hus,
        List.length_cons, Nat.add_assoc, Nat.add_assoc, Nat.add_comm 1]
      cases v.tokenizeFrom _ _ rest <;> rfl

theorem tokenizeFrom_refused (hv : v.Ranked) (h : v.Refused offset count s f) :
    v.tokenizeFrom offset count s = .error f := by
  cases h with
  | word hl hcut hunknown =>
    refine (tokenizeFrom_cut hl hcut).trans ?_
    rw [(Lexeme.token?_word_eq_none_iff hv).mpr hunknown]
    rfl
  | @character c rest hblank hno =>
    rw [tokenizeFrom, hblank, if_neg Bool.false_ne_true, Lexeme.ofText?_eq_none_iff.mpr hno]

/-- Every text can be split up to its end, or to where it is refused. -/
theorem exists_splits (hv : v.Ranked) (s : Text) :
    ∃ ps before rest ts, s = before ++ rest ∧ Splits ps before rest ∧ v.Reads ps ts ∧
      (rest = [] ∨ ∀ offset count, ∃ f, v.Refused offset count rest f) := by
  -- Along the scanner: where it goes on, one more piece is put in front of the split of what
  -- follows, and where it stops, nothing is split off.
  fun_induction tokenizeFrom v 0 0 s with
  | case1 => exact ⟨[], [], [], [], rfl, .nil _, .nil, .inl rfl⟩
  | case2 _ _ c s hblank ih =>
    obtain ⟨ps, before, rest, ts, rfl, hsplits, hts, hend⟩ := ih
    have hcut : Text.Apart [c] (before ++ rest) :=
      Lexeme.apart_mark (by simp [CodePoint.isAlphanumeric_of_isBlank hblank]) _
    exact ⟨.blank c :: ps, c :: before, rest, ts, rfl, .cons hblank hcut hsplits, hts, hend⟩
  | case3 _ _ c s hblank hnone =>
    have hblank := Bool.eq_false_iff.mpr hblank
    exact ⟨[], [], c :: s, [], rfl, .nil _, .nil, .inr fun _ _ =>
      ⟨_, .character hblank (Lexeme.ofText?_eq_none_iff.mp hnone)⟩⟩
  | case4 _ _ c s hblank l hl hnone =>
    obtain ⟨rest, hs, hproper, hcut⟩ := Lexeme.ofText?_eq_some_iff.mp hl
    cases l with
    | leftParen | rightParen | connective c => cases hnone
    | word initial cs =>
      rw [hs]
      exact ⟨[], [], _, [], rfl, .nil _, .nil, .inr fun _ _ =>
        ⟨_, .word hproper hcut ((Lexeme.token?_word_eq_none_iff hv).mp hnone)⟩⟩
  | case5 _ _ c s hblank l hl t ht n ih =>
    obtain ⟨after, hs, hproper, hcut⟩ := Lexeme.ofText?_eq_some_iff.mp hl
    rw [hs] at ih ⊢
    rw [List.drop_left] at ih
    obtain ⟨ps, before, rest, ts, rfl, hsplits, hts, hend⟩ := ih
    exact ⟨.lexeme l :: ps, l.text ++ before, rest, t :: ts, (List.append_assoc _ _ _).symm,
      .cons hproper hcut hsplits, .cons ((Lexeme.token?_eq_some_iff hv).mp ht) hts, hend⟩

/-- A text that is split to its end is read. -/
theorem tokenizeFrom_of_splits (hv : v.Ranked) (offset count : Nat) (h : Splits ps s [])
    (hts : v.Reads ps ts) : v.tokenizeFrom offset count s = .ok ts := by
  have hread := tokenizeFrom_splits hv offset count h hts
  rw [List.append_nil, tokenizeFrom] at hread
  rw [hread]
  simp [Except.map]

/-- Reading ends where a text does, or where it is refused. -/
theorem tokenizeFrom_cases (hv : v.Ranked) (offset count : Nat) (s : Text) :
    ∃ ps before rest ts, s = before ++ rest ∧ Splits ps before rest ∧ v.Reads ps ts ∧
      (rest = [] ∧ v.tokenizeFrom offset count s = .ok ts ∨
        ∃ f, v.Refused (offset + before.length) (count + ts.length) rest f ∧
          v.tokenizeFrom offset count s = .error f) := by
  obtain ⟨ps, before, rest, ts, rfl, hsplits, hts, hend⟩ := exists_splits hv s
  refine ⟨ps, before, rest, ts, rfl, hsplits, hts, ?_⟩
  rcases hend with rfl | hrefused
  · refine .inl ⟨rfl, ?_⟩
    rw [List.append_nil]
    exact tokenizeFrom_of_splits hv offset count hsplits hts
  · obtain ⟨f, hf⟩ := hrefused (offset + before.length) (count + ts.length)
    refine .inr ⟨f, hf, ?_⟩
    rw [tokenizeFrom_splits hv offset count hsplits hts, tokenizeFrom_refused hv hf]
    rfl

/-- Tokens are read from the texts that can be split to the end. -/
theorem tokenizeFrom_ok_iff (hv : v.Ranked) :
    v.tokenizeFrom offset count s = .ok ts ↔ ∃ ps, Splits ps s [] ∧ v.Reads ps ts := by
  constructor
  · intro h
    obtain ⟨ps, before, rest, us, rfl, hsplits, hus, ⟨rfl, hok⟩ | ⟨f, -, herror⟩⟩ :=
      tokenizeFrom_cases hv offset count s
    · obtain rfl := Except.ok.inj (hok.symm.trans h)
      exact ⟨ps, (List.append_nil before).symm ▸ hsplits, hus⟩
    · cases h.symm.trans herror
  · rintro ⟨ps, hsplits, hts⟩
    exact tokenizeFrom_of_splits hv offset count hsplits hts

/-- Reading fails where a text is refused behind a split. -/
theorem tokenizeFrom_error_iff (hv : v.Ranked) :
    v.tokenizeFrom offset count s = .error f ↔
      ∃ ps before rest ts, s = before ++ rest ∧ Splits ps before rest ∧ v.Reads ps ts ∧
        v.Refused (offset + before.length) (count + ts.length) rest f := by
  constructor
  · intro h
    obtain ⟨ps, before, rest, ts, rfl, hsplits, hts, ⟨rfl, hok⟩ | ⟨g, hg, herror⟩⟩ :=
      tokenizeFrom_cases hv offset count s
    · cases h.symm.trans hok
    · obtain rfl := Except.error.inj (herror.symm.trans h)
      exact ⟨ps, before, rest, ts, rfl, hsplits, hts, hg⟩
  · rintro ⟨ps, before, rest, ts, rfl, hsplits, hts, hrefused⟩
    rw [tokenizeFrom_splits hv offset count hsplits hts, tokenizeFrom_refused hv hrefused]
    rfl

end Vocabulary

open Vocabulary (standard)

/-- A text is read exactly if it can be split into blanks and lexemes whose words are names of
operands, and gives the tokens of the lexemes in their order; it cannot be split in two ways.
Otherwise it is read up to a cut at an offset, and the fault has the number of tokens read before as
its position; behind the cut starts a word that is no operand's name, or what is neither blank nor a
lexeme. -/
theorem tokenize_splits (s : Text) :
    standard.operands.map Token.name = ["A", "B", "C", "TRUE", "FALSE"] ∧
      (∀ ts, standard.tokenize s = .ok ts ↔ ∃ ps, Splits ps s [] ∧ standard.Reads ps ts) ∧
      (∀ ps qs, Splits ps s [] → Splits qs s [] → ps = qs) ∧
      ∀ f, standard.tokenize s = .error f ↔
        f.kind = .unknownToken ∧ ∃ before rest ts, s = before ++ rest ∧ Text.Apart before rest ∧
          standard.tokenize before = .ok ts ∧ f.position = some ts.length ∧
          standard.Refused before.length ts.length rest f := by
  have hv := Vocabulary.standard_conventional.toRanked
  refine ⟨rfl, fun ts => Vocabulary.tokenizeFrom_ok_iff hv, fun ps qs => Splits.unique, fun f => ?_⟩
  rw [Vocabulary.tokenize, Vocabulary.tokenizeFrom_error_iff hv]
  constructor
  · rintro ⟨ps, before, rest, ts, rfl, hsplits, hts, hrefused⟩
    rw [Nat.zero_add, Nat.zero_add] at hrefused
    obtain ⟨hbefore, hcut⟩ := Splits.iff_apart.mp hsplits
    have hread : standard.tokenize before = .ok ts :=
      (Vocabulary.tokenizeFrom_ok_iff hv).mpr ⟨ps, hbefore, hts⟩
    exact ⟨hrefused.kind, before, rest, ts, rfl, hcut, hread, hrefused.position, hrefused⟩
  · rintro ⟨-, before, rest, ts, rfl, hcut, hread, -, hrefused⟩
    obtain ⟨ps, hbefore, hts⟩ := (Vocabulary.tokenizeFrom_ok_iff hv).mp hread
    refine ⟨ps, before, rest, ts, rfl, Splits.iff_apart.mpr ⟨hbefore, hcut⟩, hts, ?_⟩
    rwa [Nat.zero_add, Nat.zero_add]

/-- The cases of `!a &&TRUE`, of a word with a numeral and of half a symbol. -/
theorem tokenize_splits_cases :
    (∃ ps, Splits ps "!a &&TRUE" [] ∧ standard.Reads ps
      [standard.operator .not, .variable "A", standard.operator .and, .constant "TRUE" true]) ∧
    (∃ before rest ts, ("A||b1 !" : Text) = before ++ rest ∧ Text.Apart before rest ∧
      standard.tokenize before = .ok ts ∧
      (Fault.unknownWord "b1" 3 2).position = some ts.length ∧
      standard.Refused before.length ts.length rest (.unknownWord "b1" 3 2)) ∧
    ∃ before rest ts, ("A & B" : Text) = before ++ rest ∧ Text.Apart before rest ∧
      standard.tokenize before = .ok ts ∧
      (Fault.unexpected (.char '&') 2 1).position = some ts.length ∧
      standard.Refused before.length ts.length rest (.unexpected (.char '&') 2 1) :=
  ⟨((tokenize_splits "!a &&TRUE").2.1 _).mp (by decide +kernel),
    (((tokenize_splits "A||b1 !").2.2.2 _).mp (by decide +kernel)).2,
    (((tokenize_splits "A & B").2.2.2 _).mp (by decide +kernel)).2⟩

end InfixLogic
