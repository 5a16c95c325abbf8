import InfixLogic.Proofs.Adjacency

/- What every derived expression looks like.

   The neighbours of a derived list of tokens meet, and more than that: no NOT stands behind the
   end of an operand, and no operator in front of a closing parenthesis. It starts where an
   operand may start and it ends where one may end (`Derives.shape`). With `validate_ok_iff` this
   is all that is needed to see that the scan accepts it (`Derives.validate`). -/

namespace InfixLogic

/-- `b` may stand right behind `a` in a derived expression. -/
structure Joins (v : Vocabulary) (a b : Token) : Prop extends Meets a b where
  /-- NOT stands in front of its operand. -/
  prefixed : a.closesOperand = true → b ≠ v.operator .not
  /-- An operator has its operand in the same group. -/
  supplied : a.isOperator = true → b.tag ≠ .rightParen

/-- The shape of a derived expression. -/
structure Shape (v : Vocabulary) (ts : List Token) : Prop where
  chain : ts.IsChain (Joins v)
  head : ∃ t ∈ ts.head?, t.opensOperand = true ∨ t = v.operator .not
  last : ∃ t ∈ ts.getLast?, t.closesOperand = true

section Neighbours
variable {v : Vocabulary} {a b : Token} {c : Connective}

theorem isBinary_operator (hc : c ≠ .not) : (v.operator c).isBinary = true := by
  cases c with
  | not => exact absurd rfl hc
  | _ => rfl

theorem not_binary_of_opens (h : a.opensOperand = true ∨ a = v.operator .not) :
    a.isBinary = false := by
  rcases h with h | rfl
  · cases htag : a.tag <;> simp_all [Token.opensOperand, Token.isBinary, Token.isOperator]
  · rfl

theorem not_binary_of_closes (h : a.closesOperand = true) : a.isBinary = false := by
  cases htag : a.tag <;> simp_all [Token.closesOperand, Token.isBinary, Token.isOperator]

/-- Behind the end of an operand stands a binary operator or a closing parenthesis. -/
theorem joins_of_closes (ha : a.closesOperand = true)
    (hb : b = .rightParen ∨ ∃ c, c ≠ .not ∧ b = v.operator c) : Joins v a b := by
  have htag : a.tag ≠ .operator ∧ a.tag ≠ .leftParen := by
    cases h : a.tag <;> simp_all [Token.closesOperand]
  rcases hb with rfl | ⟨c, hc, rfl⟩
  · exact {
      separated := fun _ => rfl
      filled := fun h => absurd h htag.2
      preceded := fun _ => htag
      prefixed := fun _ h => nomatch congrArg Token.tag h
      supplied := fun h => absurd (by simpa [Token.isOperator] using h) htag.1 }
  · exact {
      separated := fun _ => rfl
      filled := fun h => absurd h htag.2
      preceded := fun _ => htag
      prefixed := fun _ h => hc (by cases c <;> simp_all [Vocabulary.operator, Connective.arity])
      supplied := fun h => absurd (by simpa [Token.isOperator] using h) htag.1 }

/-- Behind an operator or an opening parenthesis an operand starts. -/
theorem joins_of_opens (ha : a = .leftParen ∨ ∃ c, a = v.operator c)
    (hb : b.opensOperand = true ∨ b = v.operator .not) : Joins v a b := by
  have hclose : a.closesOperand = false := by
    rcases ha with rfl | ⟨c, rfl⟩ <;> rfl
  have hright : b.tag ≠ .rightParen := by
    rcases hb with h | rfl
    · intro hr; simp [Token.opensOperand, hr] at h
    · simp
  exact {
    separated := fun h => absurd h (by simp [hclose])
    filled := fun _ => hright
    preceded := fun h => absurd h (by simp [not_binary_of_opens hb])
    prefixed := fun h => absurd h (by simp [hclose])
    supplied := fun _ => hright }

end Neighbours

namespace Shape

variable {v : Vocabulary} {ts us : List Token}

theorem operand {t : Token} (h : t.tag = .operand) : Shape v [t] where
  chain := .singleton t
  head := ⟨t, rfl, .inl (by simp [Token.opensOperand, h])⟩
  last := ⟨t, rfl, by simp [Token.closesOperand, h]⟩

/-- An operator or an opening parenthesis in front. -/
theorem chain_cons {a : Token} (h : Shape v ts) (ha : a = .leftParen ∨ ∃ c, a = v.operator c) :
    (a :: ts).IsChain (Joins v) := by
  obtain ⟨t, ht, hopen⟩ := h.head
  refine List.isChain_cons.mpr ⟨?_, h.chain⟩
  intro u hu
  obtain rfl : t = u := Option.some.inj (ht.symm.trans hu)
  exact joins_of_opens ha hopen

theorem not (h : Shape v ts) : Shape v (v.operator .not :: ts) where
  chain := h.chain_cons (.inr ⟨_, rfl⟩)
  head := ⟨_, rfl, .inr rfl⟩
  last := by
    obtain ⟨t, ht, hclose⟩ := h.last
    exact ⟨t, by simp [List.getLast?_cons, Option.mem_def.mp ht], hclose⟩

theorem group (h : Shape v ts) : Shape v (.leftParen :: ts ++ [.rightParen]) where
  chain := by
    obtain ⟨t, ht, hclose⟩ := h.last
    refine List.isChain_append.mpr ⟨h.chain_cons (.inl rfl), .singleton _, ?_⟩
    intro a ha b hb
    obtain rfl : t = a := by simpa [List.getLast?_cons, Option.mem_def.mp ht] using ha
    obtain rfl : Token.rightParen = b := by simpa using hb
    exact joins_of_closes hclose (.inl rfl)
  head := ⟨.leftParen, rfl, .inl rfl⟩
  last := ⟨.rightParen, by rw [List.getLast?_append]; rfl, rfl⟩

theorem binary (h : Shape v ts) (h' : Shape v us) {c : Connective} (hc : c ≠ .not) :
    Shape v (ts ++ v.operator c :: us) where
  chain := by
    obtain ⟨t, ht, hclose⟩ := h.last
    refine List.isChain_append.mpr ⟨h.chain, h'.chain_cons (.inr ⟨c, rfl⟩), ?_⟩
    intro a ha b hb
    obtain rfl : t = a := Option.some.inj (ht.symm.trans ha)
    obtain rfl : v.operator c = b := by simpa using hb
    exact joins_of_closes hclose (.inr ⟨c, hc, rfl⟩)
  head := by
    obtain ⟨t, ht, hopen⟩ := h.head
    exact ⟨t, by simp [List.head?_append, Option.mem_def.mp ht], hopen⟩
  last := by
    obtain ⟨t, ht, hclose⟩ := h'.last
    exact ⟨t, by simp [List.getLast?_append, List.getLast?_cons, Option.mem_def.mp ht], hclose⟩

end Shape

namespace Derives

variable {v : Vocabulary} {s : Stratum} {ts : List Token} {e : Expr}

theorem shape (h : Derives v s ts e) : Shape v ts := by
  induction h with
  | operand mem => exact .operand (Vocabulary.operand_tag mem)
  | group _ ih => exact ih.group
  | atom _ ih | negation _ ih | conjunction _ ih => exact ih
  | not _ ih => exact ih.not
  | and _ _ ihl ihr | or _ _ ihl ihr => exact ihl.binary ihr (by decide)

theorem mem_tokens (h : Derives v s ts e) : ∀ t ∈ ts, t ∈ v.tokens := by
  induction h with
  | operand mem => simpa using Vocabulary.operand_mem_tokens mem
  | group _ ih =>
    intro t ht
    simp only [List.cons_append, List.mem_cons, List.mem_append, List.not_mem_nil, or_false] at ht
    rcases ht with rfl | ht | rfl
    · exact v.leftParen_mem_tokens
    · exact ih t ht
    · exact v.rightParen_mem_tokens
  | atom _ ih | negation _ ih | conjunction _ ih => exact ih
  | not _ ih =>
    intro t ht
    rcases List.mem_cons.mp ht with rfl | ht
    · exact v.operator_mem_tokens _
    · exact ih t ht
  | and _ _ ihl ihr | or _ _ ihl ihr =>
    intro t ht
    rcases List.mem_append.mp ht with ht | ht
    · exact ihl t ht
    · rcases List.mem_cons.mp ht with rfl | ht
      · exact v.operator_mem_tokens _
      · exact ihr t ht

/-- The leaves of the tree are operands of the vocabulary. -/
theorem mem_operands (h : Derives v s ts e) : ∀ t ∈ e.operands, t ∈ v.operands := by
  induction h with
  | operand mem => simpa [Expr.operands] using mem
  | group _ ih | atom _ ih | not _ ih | negation _ ih | conjunction _ ih => exact ih
  | and _ _ ihl ihr | or _ _ ihl ihr =>
    intro t ht
    rcases List.mem_append.mp ht with ht | ht
    · exact ihl t ht
    · exact ihr t ht

/-- The scan accepts what the grammar derives. -/
theorem validate (hv : v.Ranked) (h : Derives v s ts e) :
    v.validate (Token.items ts) = .ok () := by
  rw [Vocabulary.validate_ok_iff, hv.map_canonicalToken h.mem_tokens]
  obtain ⟨a, ha, hopen⟩ := h.shape.head
  obtain ⟨b, hb, hclose⟩ := h.shape.last
  have hne : ts ≠ [] := by
    rintro rfl
    simp at ha
  refine ⟨hne, fun t ht _ => hv.defines_of_mem (h.mem_tokens t ht),
    h.shape.chain.imp fun _ _ hj => hj.toMeets, ?_, ?_⟩
  · intro t ht
    obtain rfl : a = t := Option.some.inj (ha.symm.trans ht)
    exact not_binary_of_opens hopen
  · intro t ht
    obtain rfl : b = t := Option.some.inj (hb.symm.trans ht)
    exact not_binary_of_closes hclose

end Derives

end InfixLogic
