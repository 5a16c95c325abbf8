import InfixLogic.Proofs.Canonical
import InfixLogic.Surface

/- Expressions written out and read back.

   An expression is written as the labels of its tokens with a blank between them. Labels and
   lexemes come from different tables: an operand is labelled by its symbol and found by the
   upper-case form of its name. `Lexeme.Spells` says that the two agree on a token, which they do on
   every token of a vocabulary whose operands have names that can be typed (`exists_spells`).

   A cut goes through no run of letters and numerals (`Text.Apart`). In front of a cut a lexeme is
   found (`ofText?_append`), and there is one in front of every blank, so the text of an expression
   reads back as its canonical tokens (`tokenize_format_items`). What is read from any text is in the vocabulary
   (`mem_tokens_of_tokenize`). From these two it follows that to write and read again changes
   nothing, and that a text determines the tokens it was written for (`surface_round_trip`). -/

namespace InfixLogic

namespace CodePoint

/-- A number that is in a table lies in one of its ranges. -/
theorem exists_range {n : Nat} {ranges : List (Nat × Nat)} (h : inRanges n ranges = true) :
    ∃ r ∈ ranges, r.1 ≤ n ∧ n ≤ r.2 := by
  induction ranges with
  | nil => cases h
  | cons r ranges ih =>
    rw [inRanges] at h
    split at h
    · cases h
    · next hle =>
      rcases Bool.or_eq_true_iff.mp h with h | h
      · exact ⟨r, by simp, by omega, by simpa using h⟩
      · obtain ⟨s, hs, hn⟩ := ih h
        exact ⟨s, List.mem_cons_of_mem r hs, hn⟩

theorem isAlphanumeric_of_isLetter {c : CodePoint} (h : c.isLetter = true) :
    c.isAlphanumeric = true := by
  cases c with
  | lone n => cases h
  | char c => exact Bool.or_eq_true_iff.mpr (.inl h)

/-- No blank is a letter or a numeral. -/
theorem isAlphanumeric_of_isBlank {c : CodePoint} (h : c.isBlank = true) :
    c.isAlphanumeric = false := by
  -- The blanks are few, so each of them is looked up in the two tables.
  have hno : ∀ r ∈ blankRanges, ∀ k < r.2 + 1 - r.1,
      (inRanges (r.1 + k) letterRanges || inRanges (r.1 + k) numeralRanges) = false := by
    decide +kernel
  cases c with
  | lone n => rfl
  | char c =>
    obtain ⟨r, hr, hlow, hhigh⟩ := exists_range h
    have hfalse := hno r hr (c.toNat - r.1) (by omega)
    rwa [Nat.add_sub_cancel' hlow] at hfalse

theorem isBlank_of_isAlphanumeric {c : CodePoint} (h : c.isAlphanumeric = true) :
    c.isBlank = false :=
  Bool.eq_false_iff.mpr fun hblank =>
    Bool.false_ne_true ((isAlphanumeric_of_isBlank hblank).symm.trans h)

end CodePoint

/-! ## Cuts -/

namespace Text

/-- The cut between two texts goes through no run of letters and numerals. -/
def Apart (s t : Text) : Prop :=
  ∀ c ∈ s.getLast?, ∀ d ∈ t.head?, ¬ (c.isAlphanumeric = true ∧ d.isAlphanumeric = true)

theorem Apart.nil_right (s : Text) : Apart s [] := by simp [Apart]

/-- The cuts of three texts. -/
theorem apart_append {s t u : Text} :
    Apart s (t ++ u) ∧ Apart t u ↔ Apart s t ∧ Apart (s ++ t) u := by
  cases t with
  | nil => simp [Apart]
  | cons c t => simp [Apart, List.getLast?_append]

/-- There is a cut in front of a blank. -/
theorem apart_blank (s : Text) {w : CodePoint} (hw : w.isBlank = true) (t : Text) :
    Apart s (w :: t) := by
  simp [Apart, CodePoint.isAlphanumeric_of_isBlank hw]

end Text

/-! ## Lexemes -/

namespace Lexeme

/-- A lexeme as it is found in texts: a word starts with a letter and goes on with letters and
numerals. -/
def Proper : Lexeme → Prop
  | .word initial rest => initial.isLetter = true ∧ ∀ c ∈ rest, c.isAlphanumeric = true
  | _ => True

/-- A letter starts a word. -/
theorem ofText?_letter {c : CodePoint} (h : c.isLetter = true) (t : Text) :
    ofText? (c :: t) = some (.word c (t.takeWhile CodePoint.isAlphanumeric)) := by
  have hno : (['(', ')', '!', '&', '|'].any fun m => (CodePoint.char m).isLetter) = false := by
    decide
  have hmark : ∀ m ∈ ['(', ')', '!', '&', '|'], c ≠ .char m := by
    rintro m hm rfl
    exact List.any_eq_false.mp hno m hm h
  unfold ofText?
  split
  · next e => cases e
  · next e => exact absurd (List.cons.inj e).1 (hmark _ (by simp))
  · next e => exact absurd (List.cons.inj e).1 (hmark _ (by simp))
  · next e => exact absurd (List.cons.inj e).1 (hmark _ (by simp))
  · next e => exact absurd (List.cons.inj e).1 (hmark _ (by simp))
  · next e => exact absurd (List.cons.inj e).1 (hmark _ (by simp))
  · next e =>
    obtain ⟨rfl, rfl⟩ := List.cons.inj e
    rw [if_pos h]

/-- The code points of a word. -/
theorem isAlphanumeric_of_mem_word {initial : CodePoint} {cs : Text}
    (h : (word initial cs).Proper) : ∀ c ∈ initial :: cs, c.isAlphanumeric = true :=
  List.forall_mem_cons.mpr ⟨CodePoint.isAlphanumeric_of_isLetter h.1, h.2⟩

/-- A lexeme is found in front of any rest, a word if it does not go on. -/
theorem ofText?_append {l : Lexeme} (hl : l.Proper) {rest : Text} (h : Text.Apart l.text rest) :
    ofText? (l.text ++ rest) = some l := by
  cases l with
  | leftParen => rfl
  | rightParen => rfl
  | connective c => cases c <;> rfl
  | word initial cs =>
    have htail : rest.takeWhile CodePoint.isAlphanumeric = [] := by
      cases rest with
      | nil => rfl
      | cons c rest =>
        have hlast := isAlphanumeric_of_mem_word hl _ (List.getLast_mem (List.cons_ne_nil _ _))
        have hno := h _ (List.getLast?_eq_some_getLast (List.cons_ne_nil _ _)) c rfl
        exact List.takeWhile_cons_of_neg fun hc => hno ⟨hlast, hc⟩
    rw [text, List.cons_append, ofText?_letter hl.1, List.takeWhile_append_of_pos hl.2, htail,
      List.append_nil]

/-- A lexeme has no blanks. -/
theorem isBlank_of_mem_text {l : Lexeme} (hl : l.Proper) :
    ∀ c ∈ l.text, c.isBlank = false := by
  cases l with
  | leftParen => decide
  | rightParen => decide
  | connective c => cases c <;> decide
  | word initial cs =>
    exact fun c hc => CodePoint.isBlank_of_isAlphanumeric (isAlphanumeric_of_mem_word hl c hc)

/-- A lexeme in front of a cut starts with no blank, and is found. -/
theorem exists_cons_of_apart {l : Lexeme} (hl : l.Proper) {rest : Text}
    (h : Text.Apart l.text rest) :
    ∃ c s, l.text ++ rest = c :: s ∧ c.isBlank = false ∧ ofText? (c :: s) = some l := by
  obtain ⟨c, cs, htext⟩ := List.exists_cons_of_length_pos l.length_text_pos
  have hfound := ofText?_append hl h
  rw [htext] at hfound ⊢
  exact ⟨c, cs ++ rest, rfl, isBlank_of_mem_text hl c (htext ▸ List.mem_cons_self), hfound⟩

/-- A lexeme that is the label of a token and is read as its canonical token. -/
structure Spells (v : Vocabulary) (l : Lexeme) (t : Token) : Prop where
  proper : l.Proper
  text : l.text = (v.canonicalToken t).label
  token : l.token? v = some (v.canonicalToken t)

/-- The token of a lexeme is in the vocabulary. -/
theorem mem_tokens_of_token? {v : Vocabulary} {l : Lexeme} {t : Token} (h : l.token? v = some t) :
    t ∈ v.tokens := by
  cases l with
  | leftParen => exact Option.some.inj h ▸ v.leftParen_mem_tokens
  | rightParen => exact Option.some.inj h ▸ v.rightParen_mem_tokens
  | connective c => exact Option.some.inj h ▸ v.operator_mem_tokens c
  | word initial rest => exact Vocabulary.mem_of_find? (Option.filter_eq_some_iff.mp h).1

end Lexeme

namespace Vocabulary

variable {v : Vocabulary} {offset count : Nat}

/-! ## Reading -/

/-- A blank is passed over. -/
theorem tokenizeFrom_blank {c : CodePoint} (h : c.isBlank = true) (rest : Text) :
    v.tokenizeFrom offset count (c :: rest) = v.tokenizeFrom (offset + 1) count rest := by
  rw [tokenizeFrom, if_pos h]

/-- A lexeme in front of a cut is read for its token, and fails if it has none. -/
theorem tokenizeFrom_cut {l : Lexeme} (hl : l.Proper) {rest : Text}
    (h : Text.Apart l.text rest) :
    v.tokenizeFrom offset count (l.text ++ rest) =
      match l.token? v with
      | none => .error (.unknownWord l.text offset count)
      | some t => (v.tokenizeFrom (offset + l.text.length) (count + 1) rest).map (t :: ·) := by
  obtain ⟨c, s, htext, hblank, hfound⟩ := Lexeme.exists_cons_of_apart hl h
  have hrest : (c :: s).drop l.text.length = rest := by rw [← htext, List.drop_left]
  rw [htext, tokenizeFrom, hblank, if_neg Bool.false_ne_true, hfound]
  simp only [hrest]
  cases l.token? v with
  | none => rfl
  | some t => cases v.tokenizeFrom (offset + l.text.length) (count + 1) rest <;> rfl

theorem tokenizeFrom_lexeme {l : Lexeme} {t : Token} (hl : l.Proper) (ht : l.token? v = some t)
    {rest : Text} (h : Text.Apart l.text rest) :
    v.tokenizeFrom offset count (l.text ++ rest) =
      (v.tokenizeFrom (offset + l.text.length) (count + 1) rest).map (t :: ·) := by
  rw [tokenizeFrom_cut hl h, ht]

/-- What is read from a text is in the vocabulary. -/
theorem mem_tokens_of_tokenizeFrom {s : Text} {ts : List Token}
    (h : v.tokenizeFrom offset count s = .ok ts) : ∀ t ∈ ts, t ∈ v.tokens := by
  fun_induction tokenizeFrom v offset count s generalizing ts with
  | case1 =>
    obtain rfl := Except.ok.inj h
    simp
  | case2 offset count c rest hblank ih => exact ih h
  | case3 => cases h
  | case4 => cases h
  | case5 offset count c rest hblank l hl t ht n =>
    rename_i ih
    obtain ⟨us, hus, hcons⟩ := bind_ok.mp h
    obtain rfl := Except.ok.inj hcons
    exact List.forall_mem_cons.mpr ⟨Lexeme.mem_tokens_of_token? ht, ih hus⟩

theorem mem_tokens_of_tokenize {s : Text} {ts : List Token} (h : v.tokenize s = .ok ts) :
    ∀ t ∈ ts, t ∈ v.tokens :=
  mem_tokens_of_tokenizeFrom h

/-! ## Writing -/

/-- The operands have names that can be typed: words that are their own upper-case form. -/
def Typable (v : Vocabulary) : Prop :=
  ∀ t ∈ v.operands, t.name.head?.any CodePoint.isLetter = true ∧
    (∀ c ∈ t.name.tail, c.isAlphanumeric = true) ∧ Text.upper t.name = t.name

theorem standard_typable : standard.Typable := by
  unfold Typable
  decide +kernel

theorem label_operand {t : Token} (h : t ∈ v.operands) : t.label = t.name := by
  have hsymbol : t.symbol = some t.name := by
    rcases List.mem_append.mp h with h | h
    · obtain ⟨n, -, rfl⟩ := List.mem_map.mp h; rfl
    · obtain ⟨c, -, rfl⟩ := List.mem_map.mp h; rfl
  rw [Token.label, hsymbol]
  cases t.name <;> rfl

/-- Every token of the vocabulary is spelled by a lexeme. -/
theorem exists_spells (hv : v.Typable) {t : Token} (h : v.defines t = true) :
    ∃ l : Lexeme, l.Spells v t := by
  rcases mem_tokens_cases (canonicalToken_mem h) with hop | ⟨c, hc⟩ | hleft | hright
  · obtain ⟨hletter, htail, hupper⟩ := hv _ hop
    obtain ⟨initial, hhead, hinitial⟩ := (Option.any_eq_true _ _).mp hletter
    have hname : initial :: (v.canonicalToken t).name.tail = (v.canonicalToken t).name :=
      List.cons_head?_tail hhead
    have htag : t.tag = .operand := (canonicalToken_tag v t).symm.trans (operand_tag hop)
    refine ⟨.word initial (v.canonicalToken t).name.tail, ⟨hinitial, htail⟩, ?_, ?_⟩
    · rw [Lexeme.text, hname, label_operand hop]
    · rw [Lexeme.token?, hname, hupper, canonicalToken_name, operand?, find?_canonicalToken h]
      simp [Token.isOperand, htag]
  · refine ⟨.connective c, trivial, ?_, ?_⟩
    · rw [hc]
      cases c <;> rfl
    · rw [hc, Lexeme.token?]
  · exact ⟨.leftParen, trivial, by rw [hleft]; rfl, by rw [hleft, Lexeme.token?]⟩
  · exact ⟨.rightParen, trivial, by rw [hright]; rfl, by rw [hright, Lexeme.token?]⟩

theorem format_cons_cons (v : Vocabulary) (t u : Token) (ts : List Token) :
    v.format (Token.items (t :: u :: ts)) =
      (v.canonicalToken t).label ++ .char ' ' :: v.format (Token.items (u :: ts)) := by
  simp only [format, Token.items, List.map_cons, Text.join, List.append_assoc]
  rfl

/-- The text of an expression reads back as its canonical tokens. -/
theorem tokenizeFrom_format (hv : v.Typable) {ts : List Token}
    (h : ∀ t ∈ ts, v.defines t = true) :
    v.tokenizeFrom offset count (v.format (Token.items ts)) = .ok (ts.map v.canonicalToken) := by
  induction ts generalizing offset count with
  | nil => rw [show v.format (Token.items []) = [] from rfl, tokenizeFrom, List.map_nil]
  | cons t ts ih =>
    obtain ⟨l, hl⟩ := exists_spells hv (h t (by simp))
    cases ts with
    | nil =>
      have hlast : v.tokenizeFrom offset count (l.text ++ []) = _ :=
        tokenizeFrom_lexeme hl.proper hl.token (.nil_right _)
      rw [List.append_nil, hl.text, tokenizeFrom] at hlast
      exact hlast
    | cons u ts =>
      have hblank : (CodePoint.char ' ').isBlank = true := by decide
      rw [format_cons_cons, ← hl.text, tokenizeFrom_lexeme hl.proper hl.token
        (Text.apart_blank _ hblank _), tokenizeFrom_blank hblank, ih fun t ht => h t (by simp [ht])]
      rfl

theorem tokenize_format_items (hv : v.Typable) {ts : List Token}
    (h : ∀ t ∈ ts, v.defines t = true) :
    v.tokenize (v.format (Token.items ts)) = .ok (ts.map v.canonicalToken) :=
  tokenizeFrom_format hv h

end Vocabulary

open Vocabulary (standard)

/-- The text of tokens of the vocabulary reads back, each token as the vocabulary's own of its tag
and name. So what was read from a text stays the same when it is written and read again, and tokens
with one text are the same up to metadata. -/
theorem surface_round_trip :
    (∀ ts : List Token, (∀ t ∈ ts, standard.defines t = true) →
        ∃ us, standard.tokenize (standard.format (Token.items ts)) = .ok us ∧
          List.Forall₂ standard.Predefined ts us) ∧
      (∀ (s : Text) (ts : List Token), standard.tokenize s = .ok ts →
        standard.tokenize (standard.format (Token.items ts)) = .ok ts) ∧
      ∀ ts us : List Token, (∀ t ∈ ts, standard.defines t = true) →
        (∀ t ∈ us, standard.defines t = true) →
          standard.format (Token.items ts) = standard.format (Token.items us) →
            ts.map Token.identity = us.map Token.identity := by
  have hread {ts : List Token} (h : ∀ t ∈ ts, standard.defines t = true) :=
    Vocabulary.tokenize_format_items Vocabulary.standard_typable h
  have hranked := Vocabulary.standard_conventional.toRanked
  refine ⟨fun ts h => ⟨_, hread h, ?_⟩, fun s ts h => ?_, fun ts us hts hus heq => ?_⟩
  · exact Vocabulary.forall₂_predefined h
  · have hmem := Vocabulary.mem_tokens_of_tokenize h
    rw [hread fun t ht => hranked.defines_of_mem (hmem t ht), hranked.map_canonicalToken hmem]
  · have hcanonical : ts.map standard.canonicalToken = us.map standard.canonicalToken :=
      Except.ok.inj ((hread hts).symm.trans (heq ▸ hread hus))
    simpa [Function.comp_def, Vocabulary.canonicalToken_identity] using
      congrArg (List.map Token.identity) hcanonical

/-- The cases of look-alikes with metadata of their own, and of `! a||TRUE`, which is written as
`! A || TRUE`. -/
theorem surface_round_trip_look_alike :
    (∃ us, standard.tokenize (standard.format (Token.items
          [⟨.operator, "NOT", some "&&", none, 2, 0, false⟩,
            ⟨.operand, "A", none, some true, 0, 0, false⟩])) = .ok us ∧
        List.Forall₂ standard.Predefined [⟨.operator, "NOT", some "&&", none, 2, 0, false⟩,
          ⟨.operand, "A", none, some true, 0, 0, false⟩] us) ∧
      standard.tokenize (standard.format (Token.items [standard.operator .not, .variable "A",
          standard.operator .or, .constant "TRUE" true])) =
        .ok [standard.operator .not, .variable "A", standard.operator .or,
          .constant "TRUE" true] :=
  ⟨surface_round_trip.1 _ (by decide), surface_round_trip.2.1 "! a||TRUE" _ (by decide +kernel)⟩

end InfixLogic
