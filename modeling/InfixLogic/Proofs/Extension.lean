import InfixLogic.Proofs.Adjacency

/- Expressions that go on.

   The rules look at a token and its neighbours, so that more tokens at the end only change what is
   seen of the token that was the last. With nothing behind it that token can be at fault in two
   ways (`checkToken_end`): it is an unknown operand, which it stays whatever follows, or it is a
   binary operator, which may be waiting for its second operand.

   A fault is therefore final unless it is that of a binary operator at the end. Without another
   fault an expression is `Extendable`: whatever follows, nothing in front of its last token will be
   at fault. Every beginning of an expression that passes is of this kind (`verdict_stable`). -/

namespace InfixLogic

section
variable {v : Vocabulary} {previous next : Option Token} {i : Nat} {t : Token} {f : Fault}

/-- A broken rule is told at the token or behind it. -/
theorem Breaks.le_position (h : Breaks v previous i t next f) :
    ∃ p, f.position = some p ∧ i ≤ p := by
  cases h with
  | missingOperator | binaryAfterNegation => exact ⟨i + 1, rfl, Nat.le_succ i⟩
  | _ => exact ⟨i, rfl, Nat.le_refl i⟩

/-- It is a binary operator that lacks a neighbour, and it is told where it stands. -/
theorem Breaks.of_danglingOperator {p : Nat}
    (h : Breaks v previous i t next (.danglingOperator p)) : p = i ∧ t.isBinary = true := by
  cases h with
  | danglingOperator binary => exact ⟨rfl, binary⟩

end

namespace Vocabulary

variable {v : Vocabulary} {previous next : Option Token} {i : Nat} {t : Token} {f : Fault}
  {xs ys zs : List Token}

/-- A token with nothing behind it is an unknown operand or a binary operator, if it is at fault. -/
theorem checkToken_end (h : v.checkToken previous i t none = .error f) :
    v.checkOperand i t = .error f ∨ f = .danglingOperator i := by
  simp only [checkToken, bind_error] at h
  rcases h with h | ⟨-, -, h | ⟨-, -, h | ⟨-, -, h | ⟨-, -, h⟩⟩⟩⟩
  · exact .inl h
  · simp [checkSeparated] at h
  · simp [checkGroup] at h
  · unfold checkBinary at h
    split at h
    · cases h
    · cases previous <;> exact .inr (Except.error.inj h).symm
  · simp [checkNegation] at h

/-- An unknown operand is told before its neighbours are looked at. -/
theorem checkToken_of_checkOperand (h : v.checkOperand i t = .error f) :
    v.checkToken previous i t next = .error f := by
  rw [checkToken, h]
  rfl

/-- A scan takes the tokens in front of `t` with `t` in view, then `t`, then those behind it. -/
theorem validate_append_cons (v : Vocabulary) (zs : List Token) (t : Token) (ys : List Token) :
    v.validate (Token.items (zs ++ t :: ys)) = (do
      v.checkBefore (some (v.canonicalToken t)) none 0 (zs.map v.canonicalToken)
      v.checkToken (zs.map v.canonicalToken).getLast? zs.length (v.canonicalToken t)
        (ys.map v.canonicalToken).head?
      v.checkFrom (some (v.canonicalToken t)) (zs.length + 1) (ys.map v.canonicalToken)) := by
  rw [validate_items, if_neg (by simp), List.map_append, List.map_cons, checkFrom_append,
    List.head?_cons, Option.or_none, List.length_map, Nat.zero_add, checkFrom]

/-- An expression without a fault, up to a binary operator at its end. -/
def Extendable (v : Vocabulary) (ts : List Token) : Prop :=
  v.validate (Token.items ts) = .ok () ∨
    v.validate (Token.items ts) = .error (.danglingOperator (ts.length - 1))

/-- In front of the last token of an extendable expression there is no fault. -/
theorem checkBefore_of_extendable (h : v.Extendable (zs ++ [t])) :
    v.checkBefore (some (v.canonicalToken t)) none 0 (zs.map v.canonicalToken) = .ok () := by
  rw [Extendable, validate_append_cons, List.length_append, List.length_singleton,
    Nat.add_sub_cancel] at h
  cases hfront : v.checkBefore (some (v.canonicalToken t)) none 0 (zs.map v.canonicalToken) with
  | ok => rfl
  | error g =>
    rw [hfront] at h
    rcases h with h | h
    · cases h
    · -- The fault stands in front of `t`, and that of a binary operator at the end does not.
      obtain rfl := Except.error.inj h
      obtain ⟨as, b, bs, hsplit, hbreaks⟩ := checkBefore_error hfront
      have hlen := congrArg List.length hsplit
      have hpos := hbreaks.of_danglingOperator.1
      simp only [List.length_map, List.length_append, List.length_cons] at hlen
      omega

/-- Any other fault stays the first one. -/
theorem validate_append_of_error (h : v.validate (Token.items (zs ++ [t])) = .error f)
    (hf : f ≠ .danglingOperator zs.length) (ys : List Token) :
    v.validate (Token.items (zs ++ t :: ys)) = .error f := by
  rw [validate_append_cons] at h ⊢
  rcases bind_error.mp h with hfront | ⟨⟨⟩, hfront, hrest⟩
  · rw [hfront]
    rfl
  · rcases bind_error.mp hrest with hlast | ⟨-, -, hnil⟩
    · have hoperand := (checkToken_end hlast).resolve_right hf
      rw [hfront, checkToken_of_checkOperand hoperand]
      rfl
    · cases hnil

/-- The scan of an expression that begins with an extendable one comes to its last token. -/
theorem validate_of_extendable (h : v.Extendable (zs ++ [t])) (ys : List Token) :
    v.validate (Token.items (zs ++ t :: ys)) = (do
      v.checkToken (zs.map v.canonicalToken).getLast? zs.length (v.canonicalToken t)
        (ys.map v.canonicalToken).head?
      v.checkFrom (some (v.canonicalToken t)) (zs.length + 1) (ys.map v.canonicalToken)) := by
  rw [validate_append_cons, checkBefore_of_extendable h]
  rfl

/-- What is at fault then is told at that token or later. -/
theorem le_position_of_extendable (hext : v.Extendable (zs ++ [t]))
    (h : v.validate (Token.items (zs ++ t :: ys)) = .error f) :
    ∃ p, f.position = some p ∧ zs.length ≤ p := by
  rw [validate_of_extendable hext] at h
  rcases bind_error.mp h with hlast | ⟨⟨⟩, -, hrest⟩
  · exact (checkToken_error hlast).le_position
  · obtain ⟨as, b, bs, -, hbreaks⟩ := checkFrom_error hrest
    obtain ⟨p, hp, hle⟩ := hbreaks.le_position
    exact ⟨p, hp, by omega⟩

/-- The fault of a binary operator at the end is one of a binary operator. -/
theorem isBinary_of_danglingOperator
    (h : v.validate (Token.items (zs ++ [t])) = .error (.danglingOperator zs.length)) :
    (v.canonicalToken t).isBinary = true := by
  rw [validate_of_extendable (.inr (by simpa using h))] at h
  rcases bind_error.mp h with hlast | ⟨⟨⟩, -, hnil⟩
  · exact (checkToken_error hlast).of_danglingOperator.2
  · cases hnil

/-- In front of a binary operator of an expression that passes there is one that passes too. -/
theorem validate_of_append_binary (h : v.validate (Token.items (zs ++ t :: ys)) = .ok ())
    (hbinary : (v.canonicalToken t).isBinary = true) : v.validate (Token.items zs) = .ok () := by
  obtain ⟨-, hops, hchain, hhead, -⟩ := validate_ok_iff.mp h
  rw [List.map_append, List.map_cons] at hops hchain hhead
  obtain ⟨hfront, -, hseam⟩ := List.isChain_append.mp hchain
  have hne : zs ≠ [] := by
    rintro rfl
    cases (hhead _ rfl).symm.trans hbinary
  rw [List.head?_append_of_ne_nil _ (by simpa using hne)] at hhead
  refine validate_ok_iff.mpr
    ⟨hne, fun u hu => hops u (List.mem_append_left _ hu), hfront, hhead, fun u hu => ?_⟩
  have hoperator := ((hseam u hu _ rfl).preceded hbinary).1
  simp [Token.isBinary, Token.isOperator, hoperator]

end Vocabulary

/-- More tokens at the end do not change the fault of an expression, unless it is that of a binary
operator at its end. Without another fault, what is at fault with more tokens is told at its last
token or later. So each beginning of an expression that passes does pass too, or it ends in a binary
operator that is its only fault. -/
theorem verdict_stable {v : Vocabulary} {xs : List Token} (hne : xs ≠ []) (ys : List Token) :
    (∀ f, v.validate (Token.items xs) = .error f → f ≠ .danglingOperator (xs.length - 1) →
        v.validate (Token.items (xs ++ ys)) = .error f) ∧
      (v.Extendable xs → ∀ f, v.validate (Token.items (xs ++ ys)) = .error f →
        ∃ p, f.position = some p ∧ xs.length - 1 ≤ p) ∧
      (v.validate (Token.items (xs ++ ys)) = .ok () →
        v.validate (Token.items xs) = .ok () ∨
          v.validate (Token.items xs) = .error (.danglingOperator (xs.length - 1)) ∧
            ∃ zs t, xs = zs ++ [t] ∧ (v.canonicalToken t).isBinary = true ∧
              v.validate (Token.items zs) = .ok ()) := by
  obtain ⟨zs, t, rfl⟩ := (List.eq_nil_or_concat' xs).resolve_left hne
  rw [List.length_append, List.length_singleton, Nat.add_sub_cancel, List.append_assoc,
    List.singleton_append]
  refine ⟨fun f h hf => Vocabulary.validate_append_of_error h hf ys,
    fun hext f h => Vocabulary.le_position_of_extendable hext h, fun h => ?_⟩
  cases hfront : v.validate (Token.items (zs ++ [t])) with
  | ok => exact .inl rfl
  | error f =>
    obtain rfl : f = .danglingOperator zs.length := by
      by_contra hf
      cases (Vocabulary.validate_append_of_error hfront hf ys).symm.trans h
    have hbinary := Vocabulary.isBinary_of_danglingOperator hfront
    exact .inr ⟨rfl, zs, t, rfl, hbinary, Vocabulary.validate_of_append_binary h hbinary⟩

open Vocabulary (standard)

/-- The cases of an unknown operand, which is told even where an operator is missing behind it, and
of `A &&`: with one more operator behind it that one is at fault, and with an operand nothing is. -/
theorem verdict_stable_waiting :
    standard.validate (Token.items ([.plain .operand "D"] ++ [.variable "A"])) =
        .error (.unknownOperand "D" 0) ∧
      (∀ f, standard.validate (Token.items
          ([.variable "A", standard.operator .and] ++ [standard.operator .or])) = .error f →
        ∃ p, f.position = some p ∧ 1 ≤ p) ∧
      standard.validate (Token.items ([.variable "A", standard.operator .and] ++ [.variable "B"])) =
        .ok () ∧
      standard.validate (Token.items [.variable "A", standard.operator .and]) =
        .error (.danglingOperator 1) := by
  have hwaiting : standard.Extendable [.variable "A", standard.operator .and] := .inr (by decide)
  have hpasses : standard.validate (Token.items
      ([.variable "A", standard.operator .and] ++ [.variable "B"])) = .ok () := by decide
  refine ⟨(verdict_stable (by simp) _).1 _ (by decide) (by decide),
    (verdict_stable (by simp) _).2.1 hwaiting, hpasses, ?_⟩
  rcases (verdict_stable (by simp) _).2.2 hpasses with hok | ⟨hdangling, -⟩
  · exact absurd hok (by decide)
  · exact hdangling

end InfixLogic
