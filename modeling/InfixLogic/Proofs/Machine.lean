import InfixLogic.Proofs.Canonical

/- The machine at a token.

   To the machine a token is an operand of the vocabulary, a connective, an operand that the
   vocabulary does not have, or something else (`Token.Role`). For each of these one equation says
   what a step does to the stack, whatever the values are. -/

namespace InfixLogic

theorem Connective.name_of_ofName? {n : Text} {c : Connective} (h : ofName? n = some c) :
    c.name = n := by
  have := List.find?_some h
  simpa using this

theorem Connective.ofName?_eq_none {n : Text} (h : ∀ c : Connective, n ≠ c.name) :
    ofName? n = none :=
  Option.eq_none_iff_forall_ne_some.mpr fun c hc => h c (name_of_ofName? hc).symm

/-- What a token is to the machine. -/
inductive Token.Role (v : Vocabulary) (t : Token) : Prop where
  | value (htag : t.tag = .operand) (hdef : v.defines t = true)
  | connective (c : Connective) (hid : t.identity = (.operator, c.name))
  | foreignOperand (htag : t.tag = .operand) (hdef : v.defines t = false)
  | other (htag : t.tag ≠ .operand) (hid : ∀ c : Connective, t.identity ≠ (.operator, c.name))

theorem Token.role (v : Vocabulary) (t : Token) : t.Role v := by
  by_cases htag : t.tag = .operand
  · cases hdef : v.defines t with
    | true => exact .value htag hdef
    | false => exact .foreignOperand htag hdef
  · by_cases hid : ∃ c : Connective, t.identity = (.operator, c.name)
    · obtain ⟨c, hid⟩ := hid
      exact .connective c hid
    · exact .other htag (not_exists.mp hid)

/-- What an operand pushes: its own value, or what the environment gives it. -/
def Interpretation.operand {ε α : Type} (I : Interpretation ε α) (env : Text → α) (t : Token) : α :=
  match t.value with
  | some b => I.constant b
  | none => env t.name

namespace Vocabulary

variable {ε α : Type} {v : Vocabulary} {I : Interpretation ε α} {env : Text → α} {t : Token}

theorem step_value (htag : t.tag = .operand) (hdef : v.defines t = true) (i : Nat)
    (stack : List α) :
    v.step I env i (v.canonicalToken t) stack =
      .ok (I.operand env (v.canonicalToken t) :: stack) := by
  simp only [step, canonicalToken_tag, htag, defines_canonicalToken, hdef, Interpretation.operand]
  cases (v.canonicalToken t).value <;> rfl

theorem step_connective {c : Connective} (hid : t.identity = (.operator, c.name)) (i : Nat)
    (stack : List α) :
    v.step I env i (v.canonicalToken t) stack = I.apply i c stack := by
  obtain ⟨htag, hname⟩ := Prod.mk.inj hid
  simp [step, htag, hname]

theorem step_foreignOperand (htag : t.tag = .operand) (hdef : v.defines t = false) (i : Nat)
    (stack : List α) :
    v.step I env i (v.canonicalToken t) stack = .error (I.fault (.unknownOperand t.name i)) := by
  simp [step, htag, hdef]

theorem step_other (htag : t.tag ≠ .operand)
    (hid : ∀ c : Connective, t.identity ≠ (.operator, c.name)) (i : Nat) (stack : List α) :
    v.step I env i (v.canonicalToken t) stack =
      .error (I.fault (.unknownOperator (v.canonicalToken t) i)) := by
  cases h : t.tag with
  | operand => exact absurd h htag
  | operator =>
    have hname : Connective.ofName? t.name = none :=
      Connective.ofName?_eq_none fun c hc => hid c (Prod.ext h hc)
    simp [step, h, hname]
  | leftParen | rightParen => simp [step, h]

end Vocabulary

end InfixLogic
