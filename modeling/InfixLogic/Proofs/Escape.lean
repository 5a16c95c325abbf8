import InfixLogic.Json.Reader
import InfixLogic.Json.Writer

/- Strings that are written and read back.

   A code point is written as it is, by a short escape, or by one or two UTF-16 units (`Spelling`).
   The reader takes each spelling apart into its pieces (`stringBody?_writtenPoint`), so that a text
   is read back as the text of all the pieces (`echo`). This is the text itself, but for halves of
   surrogate pairs that stand next to each other and join. A text that needs no escapes is its own
   echo, and it is the echo of no other text (`echo_eq_iff`). -/

namespace InfixLogic.Json

/-! ## Hexadecimal numbers -/

def digitPoint (d : Nat) : CodePoint := .char (Nat.digitChar d)

theorem hexDigit?_digitPoint : ∀ d < 16, (digitPoint d).hexDigit? = some d := by decide

theorem hex_one {n : Nat} (h : n < 16) : Text.hex 1 n = [digitPoint n] := by
  rw [Text.hex, Nat.toDigits_of_lt_base h]
  rfl

/-- With one more place a number ends in its lowest digit. -/
theorem hex_succ {width : Nat} (hw : 0 < width) (n : Nat) :
    Text.hex (width + 1) n = Text.hex width (n / 16) ++ [digitPoint (n % 16)] := by
  rw [Text.hex, Nat.toDigits_eq_if (by decide)]
  split
  · next hlow =>
    obtain ⟨k, rfl⟩ := Nat.exists_eq_succ_of_ne_zero (Nat.ne_of_gt hw)
    rw [Nat.div_eq_of_lt hlow, Nat.mod_eq_of_lt hlow, Text.hex, Nat.toDigits_zero]
    show List.replicate (k + 1) (.char '0') ++ [digitPoint n] =
      List.replicate k (.char '0') ++ [.char '0'] ++ [digitPoint n]
    rw [List.replicate_succ']
  · simp only [Text.hex, Text.ofChars, List.map_append, List.length_append, List.map_singleton,
      List.length_singleton, Nat.add_sub_add_right, List.append_assoc]
    rfl

/-- Four hexadecimal digits give back the unit that they write. -/
theorem hex_four {n : Nat} (h : n < 0x10000) :
    ∃ a b c d, Text.hex 4 n = [a, b, c, d] ∧ hexUnit? a b c d = some n := by
  refine ⟨digitPoint (n / 16 / 16 / 16), digitPoint (n / 16 / 16 % 16), digitPoint (n / 16 % 16),
    digitPoint (n % 16), ?_, ?_⟩
  · rw [hex_succ (by decide), hex_succ (by decide), hex_succ (by decide), hex_one (by omega)]
    rfl
  · rw [hexUnit?, hexDigit?_digitPoint _ (by omega), hexDigit?_digitPoint _ (by omega),
      hexDigit?_digitPoint _ (by omega), hexDigit?_digitPoint _ (by omega)]
    exact congrArg some (by omega)

/-- The reader takes an escaped unit as one piece. -/
theorem stringBody?_escapedUnit {n : Nat} (h : n < 0x10000) (rest : Text) :
    stringBody? (escapedUnit n ++ rest) = (stringBody? rest).map fun p => (.unit n :: p.1, p.2) := by
  obtain ⟨a, b, c, d, hhex, hunit⟩ := hex_four h
  rw [escapedUnit, hhex]
  show stringBody? (.char '\\' :: .char 'u' :: a :: b :: c :: d :: rest) = _
  rw [stringBody?, hunit]
  cases stringBody? rest <;> rfl

/-! ## Code points -/

/-- The units that a code point beyond the first 65536 is written by. -/
def highUnit (c : CodePoint) : Nat := 0xD800 + (c.value - 0x10000) / 0x400

def lowUnit (c : CodePoint) : Nat := 0xDC00 + c.value % 0x400

/-- The pieces that a code point is read back as: longer spellings are made of units. -/
def pieces (c : CodePoint) : List Piece :=
  if (writtenPoint c).length ≤ 2 then [.plain c]
  else if c.value < 0x10000 then [.unit c.value]
  else [.unit (highUnit c), .unit (lowUnit c)]

/-- The four ways to write a code point, with the pieces of each. -/
inductive Spelling (c : CodePoint) : Text → List Piece → Prop where
  | direct (quote : c ≠ .char '"') (backslash : c ≠ .char '\\')
      (printable : 0x20 ≤ c.value ∧ c.value < 0x7F) : Spelling c [c] [.plain c]
  | short {e : CodePoint} (letter : e ≠ .char 'u') (escape : escape? e = some c) :
      Spelling c [.char '\\', e] [.plain c]
  | unit (low : c.value < 0x10000) (special : ¬ (0x20 ≤ c.value ∧ c.value < 0x7F)) :
      Spelling c (escapedUnit c.value) [.unit c.value]
  | pair (high : 0x10000 ≤ c.value) :
      Spelling c (escapedUnit (highUnit c) ++ escapedUnit (lowUnit c))
        [.unit (highUnit c), .unit (lowUnit c)]

theorem length_escapedUnit (n : Nat) : 2 < (escapedUnit n).length := by
  have hdigits : 0 < (Nat.toDigits 16 n).length := Nat.length_toDigits_pos
  simp only [escapedUnit, Text.hex, Text.ofChars, List.length_append, List.length_replicate,
    List.length_map]
  show 2 < 2 + _
  omega

theorem spelling (c : CodePoint) : Spelling c (writtenPoint c) (pieces c) := by
  unfold pieces writtenPoint
  dsimp only
  split
  · next h => rcases h with rfl | rfl <;> exact .short (by decide) rfl
  · next hmark =>
    split
    · next h => exact h ▸ .short (e := .char 'n') (by decide) rfl
    split
    · next h => exact h ▸ .short (e := .char 'r') (by decide) rfl
    split
    · next h => exact h ▸ .short (e := .char 't') (by decide) rfl
    split
    · next h => exact h ▸ .short (e := .char 'b') (by decide) rfl
    split
    · next h => exact h ▸ .short (e := .char 'f') (by decide) rfl
    split
    · next h => exact .direct (fun e => hmark (.inl e)) (fun e => hmark (.inr e)) h
    split
    · next hspecial hlow =>
      rw [if_neg (Nat.not_le.mpr (length_escapedUnit _))]
      exact .unit hlow hspecial
    · next hhigh =>
      have hlong := length_escapedUnit (highUnit c)
      rw [if_neg (by simp only [List.length_append]; unfold highUnit at hlong; omega)]
      exact .pair (Nat.not_lt.mp hhigh)

theorem value_lt (c : CodePoint) : c.value < 0x110000 := by
  cases c with
  | char c =>
    have hvalid : c.toNat < 0xD800 ∨ (0xDFFF < c.toNat ∧ c.toNat < 0x110000) := c.valid
    show c.toNat < _
    omega
  | lone n =>
    show 0xD800 + n.val < _
    omega

/-- The reader takes a code point as its pieces. -/
theorem stringBody?_writtenPoint (c : CodePoint) (rest : Text) :
    stringBody? (writtenPoint c ++ rest) =
      (stringBody? rest).map fun p => (pieces c ++ p.1, p.2) := by
  have hspelling := spelling c
  generalize writtenPoint c = w, pieces c = ps at hspelling
  cases hspelling with
  | direct quote backslash printable =>
    show stringBody? (c :: rest) = _
    rw [stringBody?]
    · rw [if_neg (by omega)]
      cases stringBody? rest <;> rfl
    · exact quote
    · exact fun _ _ _ _ _ e => absurd e backslash
    · exact fun _ _ e => absurd e backslash
  | @short e letter escape =>
    show stringBody? (.char '\\' :: e :: rest) = _
    rw [stringBody?, escape]
    · cases stringBody? rest <;> rfl
    · exact fun _ _ _ _ _ e => absurd e letter
  | unit low special => exact stringBody?_escapedUnit low rest
  | pair high =>
    have hlt := value_lt c
    rw [List.append_assoc, stringBody?_escapedUnit (by unfold highUnit; omega),
      stringBody?_escapedUnit (by unfold lowUnit; omega)]
    cases stringBody? rest <;> rfl

/-! ## Texts -/

/-- A text as it is read back. -/
def echo (t : Text) : Text := Piece.text (t.flatMap pieces)

/-- A string is read up to the quote behind it. -/
theorem stringBody?_written (t rest : Text) :
    stringBody? (t.flatMap writtenPoint ++ .char '"' :: rest) = some (t.flatMap pieces, rest) := by
  induction t with
  | nil => rw [List.flatMap_nil, List.nil_append, stringBody?, List.flatMap_nil]
  | cons c t ih =>
    rw [List.flatMap_cons, List.append_assoc, stringBody?_writtenPoint, ih, List.flatMap_cons]
    rfl

/-- A text that is written as it is. -/
def Verbatim (t : Text) : Prop := ∀ c ∈ t, writtenPoint c = [c]

instance (t : Text) : Decidable (Verbatim t) :=
  inferInstanceAs (Decidable (∀ c ∈ t, writtenPoint c = [c]))

/-- Pieces that are given directly are the text. -/
theorem text_map_plain (t : Text) : Piece.text (t.map .plain) = t := by
  have hpairs : Piece.pairUp (t.map .plain) = t.map .plain := by
    induction t with
    | nil => rfl
    | cons c t ih => rw [List.map_cons, Piece.pairUp, ih]
  rw [Piece.text, hpairs, List.map_map]
  exact List.map_id t

theorem flatMap_pieces {t : Text} (h : ∀ c ∈ t, pieces c = [.plain c]) :
    t.flatMap pieces = t.map .plain := by
  induction t with
  | nil => rfl
  | cons c t ih =>
    rw [List.flatMap_cons, h c (by simp), ih fun d hd => h d (by simp [hd])]
    rfl

theorem echo_of_verbatim {t : Text} (h : Verbatim t) : echo t = t := by
  rw [echo, flatMap_pieces fun c hc => by rw [pieces, h c hc]; rfl, text_map_plain]

/-- What is written as it is can be printed. -/
theorem printable_of_writtenPoint {c : CodePoint} (h : writtenPoint c = [c]) :
    0x20 ≤ c.value ∧ c.value < 0x7F := by
  have hspelling := spelling c
  rw [h] at hspelling
  generalize hw : [c] = w, pieces c = ps at hspelling
  have hlength := congrArg List.length hw
  cases hspelling with
  | direct quote backslash printable => exact printable
  | short => simp at hlength
  | unit =>
    have hlong := length_escapedUnit c.value
    rw [← hlength, List.length_singleton] at hlong
    omega
  | pair =>
    have hlong := length_escapedUnit (highUnit c)
    rw [List.length_append, List.length_singleton] at hlength
    omega

/-- A number that is no printable character's names no code point that is written as it is. -/
theorem special_ofNat {n : Nat} (h : ¬ (0x20 ≤ n ∧ n < 0x7F)) :
    writtenPoint (CodePoint.ofNat n) ≠ [CodePoint.ofNat n] := by
  intro hwritten
  have hprintable := printable_of_writtenPoint hwritten
  unfold CodePoint.ofNat at hprintable
  split at hprintable
  · simp only [CodePoint.value] at hprintable
    omega
  · -- A number that no character has stands for U+0000, which is written by an escape.
    have hvalue : (Char.ofNat n).toNat = n ∨ (Char.ofNat n).toNat = 0 := by
      by_cases h : n.isValidChar
      · exact .inl (by rw [Char.ofNat, dif_pos h]; rfl)
      · exact .inr (by rw [Char.ofNat, dif_neg h]; rfl)
    simp only [CodePoint.value] at hprintable
    omega

theorem pieces_cases (c : CodePoint) : pieces c = [.plain c] ∨ ∃ n, .unit n ∈ pieces c := by
  have hspelling := spelling c
  generalize writtenPoint c = w, pieces c = ps at hspelling
  cases hspelling with
  | direct | short => exact .inl rfl
  | unit => exact .inr ⟨_, List.mem_singleton_self _⟩
  | pair => exact .inr ⟨_, List.mem_cons_self⟩

/-- The units of a spelling are no printable characters. -/
theorem special_of_unit {c : CodePoint} {n : Nat} (h : .unit n ∈ pieces c) :
    ¬ (0x20 ≤ n ∧ n < 0x7F) := by
  have hspelling := spelling c
  generalize writtenPoint c = w, pieces c = ps at hspelling h
  cases hspelling with
  | direct | short => simp at h
  | unit low special => simp at h; exact h ▸ special
  | pair high =>
    simp only [List.mem_cons, Piece.unit.injEq, List.not_mem_nil, or_false] at h
    unfold highUnit lowUnit at h
    omega

/-- A unit stays what it is or becomes part of a code point beyond the first 65536. -/
theorem text_unit (high : Nat) (ps : List Piece) :
    ∃ n rest, Piece.text (.unit high :: ps) = CodePoint.ofNat n :: rest ∧
      (n = high ∨ 0x10000 ≤ n) := by
  rw [Piece.text, Piece.pairUp]
  split
  · split
    · exact ⟨_, _, rfl, .inr (by omega)⟩
    · exact ⟨high, _, rfl, .inl rfl⟩
  · exact ⟨high, _, rfl, .inl rfl⟩

/-- A text that needs no escapes comes from pieces that are given directly. -/
theorem writtenPoint_of_verbatim_text {ps : List Piece}
    (hunits : ∀ n, .unit n ∈ ps → ¬ (0x20 ≤ n ∧ n < 0x7F)) (h : Verbatim (Piece.text ps)) :
    ∀ p ∈ ps, ∃ c, p = .plain c ∧ writtenPoint c = [c] := by
  induction ps with
  | nil => simp
  | cons p ps ih =>
    cases p with
    | plain c =>
      have htext : Piece.text (.plain c :: ps) = c :: Piece.text ps := rfl
      rw [htext] at h
      have hrest := ih (fun n hn => hunits n (List.mem_cons_of_mem _ hn))
        fun d hd => h d (List.mem_cons_of_mem _ hd)
      exact List.forall_mem_cons.mpr ⟨⟨c, rfl, h c (by simp)⟩, hrest⟩
    | unit high =>
      obtain ⟨n, rest, htext, hn⟩ := text_unit high ps
      have hhigh := hunits high (by simp)
      rw [htext] at h
      exact absurd (h (CodePoint.ofNat n) (by simp)) (special_ofNat (by omega))

/-- A text that needs no escapes is the echo of itself and of no other text. -/
theorem echo_eq_iff {t n : Text} (hn : Verbatim n) : echo t = n ↔ t = n := by
  constructor
  · intro h
    have hunits (k : Nat) (hk : .unit k ∈ t.flatMap pieces) : ¬ (0x20 ≤ k ∧ k < 0x7F) := by
      obtain ⟨c, -, hc⟩ := List.mem_flatMap.mp hk
      exact special_of_unit hc
    have hplain := writtenPoint_of_verbatim_text hunits (h ▸ hn : Verbatim (echo t))
    have ht : Verbatim t := by
      intro c hc
      have hmem {p : Piece} (hp : p ∈ pieces c) := hplain p (List.mem_flatMap.mpr ⟨c, hc, hp⟩)
      rcases pieces_cases c with hc | ⟨k, hk⟩
      · obtain ⟨d, hd, hwritten⟩ := hmem (hc ▸ List.mem_singleton_self _)
        exact Piece.plain.inj hd ▸ hwritten
      · obtain ⟨d, hd, -⟩ := hmem hk
        cases hd
    exact (echo_of_verbatim ht).symm.trans h
  · rintro rfl
    exact echo_of_verbatim hn

end InfixLogic.Json
