import InfixLogic.Proofs.Height
import InfixLogic.Proofs.Derivation

/- Readings: from neighbours and balance to a derivation.

   Between two tokens of a scanned expression one of three things is due: the first token of a
   group, an operand behind an operator, or an operator behind the end of an operand. A reading
   goes through the tokens with what is due, the number of parentheses that are open, and the
   number of operands that will turn out to be missing.

   What is proved: tokens whose neighbours meet, none of them a NOT behind the end of an operand,
   and whose parentheses match have a reading (`reading_of_chain`). The missing operands are what
   the weight falls short of one (`Reading.weights`), and each is missing behind some operator
   (`Reading.lacking_operator`). A reading with none missing cuts the tokens at the parentheses
   still to be closed into pieces of derivations (`Reading.segments`); at depth zero there is one
   piece, and it is derived (`Reading.derives`). -/

namespace InfixLogic

/-- What is due next in an expression. -/
inductive Due where
  /-- The first token of a group or of the whole. -/
  | first
  /-- The operand of an operator. -/
  | operand
  /-- A binary operator or the end of a group. -/
  | operator
  deriving DecidableEq

/-- What is due behind a token. -/
def Token.due (t : Token) : Due :=
  match t.tag with
  | .leftParen => .first
  | .operator => .operand
  | .operand | .rightParen => .operator

/-- The tokens behind some point of an expression, with what is due there, the depth, and the
number of operands that are missing behind it. -/
inductive Reading (v : Vocabulary) : Due → Nat → Nat → List Token → Prop where
  | stop : Reading v .operator 0 0 []
  | lack : Reading v .operand 0 1 []
  | operand {due : Due} {depth lacking : Nat} {t : Token} {ts : List Token}
      (hdue : due ≠ .operator) (mem : t ∈ v.operands)
      (rest : Reading v .operator depth lacking ts) : Reading v due depth lacking (t :: ts)
  | leftParen {due : Due} {depth lacking : Nat} {ts : List Token} (hdue : due ≠ .operator)
      (rest : Reading v .first (depth + 1) lacking ts) :
      Reading v due depth lacking (.leftParen :: ts)
  | not {due : Due} {depth lacking : Nat} {ts : List Token} (hdue : due ≠ .operator)
      (rest : Reading v .operand depth lacking ts) :
      Reading v due depth lacking (v.operator .not :: ts)
  | binary {depth lacking : Nat} {c : Connective} {ts : List Token} (hc : c ≠ .not)
      (rest : Reading v .operand depth lacking ts) :
      Reading v .operator depth lacking (v.operator c :: ts)
  | rightParen {depth lacking : Nat} {ts : List Token}
      (rest : Reading v .operator depth lacking ts) :
      Reading v .operator (depth + 1) lacking (.rightParen :: ts)
  | lackParen {depth lacking : Nat} {ts : List Token}
      (rest : Reading v .operator depth lacking ts) :
      Reading v .operand (depth + 1) (lacking + 1) (.rightParen :: ts)

variable {v : Vocabulary}

/-! ## Existence -/

theorem due_of_closes {p : Token} (h : p.closesOperand = false) : p.due ≠ .operator := by
  cases htag : p.tag <;> simp_all [Token.closesOperand, Token.due]

theorem due_of_not_closes {p : Token} (h : p.tag ≠ .operator ∧ p.tag ≠ .leftParen) :
    p.due = .operator := by
  cases htag : p.tag <;> simp_all [Token.due]

/-- Neighbours that meet and parentheses that match can be read. -/
theorem reading_of_chain {ts : List Token} : ∀ {p : Token} {depth : Nat},
    (∀ t ∈ ts, t ∈ v.tokens) → (p :: ts).IsChain Meets →
    (p :: ts).IsChain (fun a b => a.closesOperand = true → b ≠ v.operator .not) →
    BalancedFrom depth ts → (p.tag = .leftParen → depth = 0 → ts ≠ []) →
    ∃ lacking, Reading v p.due depth lacking ts := by
  induction ts with
  | nil =>
    intro p depth _ _ _ hbal hne
    obtain rfl := BalancedFrom.nil_iff.mp hbal
    cases htag : p.tag with
    | leftParen => exact absurd rfl (hne htag rfl)
    | operator => exact ⟨1, by simpa [Token.due, htag] using Reading.lack⟩
    | _ => exact ⟨0, by simpa [Token.due, htag] using Reading.stop⟩
  | cons t ts ih =>
    intro p depth hmem hmeets hneg hbal hne
    obtain ⟨hpt, hmeets⟩ := List.isChain_cons_cons.mp hmeets
    obtain ⟨hpneg, hneg⟩ := List.isChain_cons_cons.mp hneg
    have hrest : ∀ u ∈ ts, u ∈ v.tokens := fun u hu => hmem u (by simp [hu])
    -- Where an operand may start, `p` does not end one.
    have hopen (hopens : t.opensOperand = true ∨ t = v.operator .not) : p.due ≠ .operator := by
      apply due_of_closes
      apply Bool.eq_false_iff.mpr
      intro hclose
      rcases hopens with h | h
      · rw [hpt.separated hclose] at h; cases h
      · exact hpneg hclose h
    rcases Vocabulary.mem_tokens_cases (hmem t (by simp)) with hop | ⟨c, rfl⟩ | rfl | rfl
    · have htag := Vocabulary.operand_tag hop
      rw [BalancedFrom.neutral_iff (by simp [Token.isGrouper, htag])] at hbal
      obtain ⟨lacking, h⟩ := ih hrest hmeets hneg hbal (by simp [htag])
      rw [Token.due, htag] at h
      exact ⟨lacking, .operand (hopen (.inl (by simp [Token.opensOperand, htag]))) hop h⟩
    · rw [BalancedFrom.neutral_iff rfl] at hbal
      obtain ⟨lacking, h⟩ := ih hrest hmeets hneg hbal (by simp)
      by_cases hc : c = .not
      · subst hc
        exact ⟨lacking, .not (hopen (.inr rfl)) h⟩
      · rw [due_of_not_closes (hpt.preceded (isBinary_operator hc))]
        exact ⟨lacking, .binary hc h⟩
    · rw [BalancedFrom.open_iff rfl] at hbal
      obtain ⟨lacking, h⟩ := ih hrest hmeets hneg hbal (by simp)
      exact ⟨lacking, .leftParen (hopen (.inl rfl)) h⟩
    · obtain ⟨d, rfl, hclosed⟩ := (BalancedFrom.close_iff rfl).mp hbal
      obtain ⟨lacking, h⟩ := ih hrest hmeets hneg hclosed (by simp)
      cases htag : p.tag with
      | leftParen => exact absurd rfl (hpt.filled htag)
      | operator => exact ⟨lacking + 1, by simpa [Token.due, htag] using Reading.lackParen h⟩
      | _ => exact ⟨lacking, by simpa [Token.due, htag] using Reading.rightParen h⟩

/-! ## Missing operands -/

namespace Reading

variable {due : Due} {depth lacking : Nat} {ts : List Token}

/-- Every missing operand takes one from the weight. -/
theorem weights (h : Reading v due depth lacking ts) :
    Token.weights ts + lacking = if due = .operator then 0 else 1 := by
  induction h with
  | stop => rfl
  | lack => rfl
  | operand hdue mem _ ih =>
    rw [if_pos rfl] at ih
    rw [weights_cons, weight_operand mem, if_neg hdue]
    omega
  | leftParen hdue _ ih =>
    rw [if_neg (by decide)] at ih
    rw [weights_cons, weight_leftParen, if_neg hdue]
    omega
  | not hdue _ ih =>
    rw [if_neg (by decide)] at ih
    rw [weights_cons, weight_operator, Connective.arity, if_neg hdue]
    omega
  | @binary _ _ c _ hc _ ih =>
    have harity : c.arity = 2 := by cases c <;> first | rfl | exact absurd rfl hc
    rw [if_neg (by decide)] at ih
    rw [weights_cons, weight_operator, harity, if_pos rfl]
    omega
  | rightParen _ ih =>
    rw [if_pos rfl] at ih
    rw [weights_cons, weight_rightParen, if_pos rfl]
    omega
  | lackParen _ ih =>
    rw [if_pos rfl] at ih
    rw [weights_cons, weight_rightParen, if_neg (by decide)]
    omega

/-- An operand is missing behind an operator: at once, in front of a closing parenthesis, or at
the end. -/
theorem lacking_operator (h : Reading v due depth lacking ts) (hpos : 0 < lacking) :
    (due = .operand ∧ ∀ t ∈ ts.head?, t = .rightParen) ∨
      (∃ a, a.isOperator = true ∧ [a, .rightParen] <:+: ts) ∨
      ∃ a ∈ ts.getLast?, a.isOperator = true := by
  -- What the rest lacks is lacked behind the first token, which then is an operator, or further on.
  have lift {t : Token} {us : List Token} {P : Prop} (hop : P → t.isOperator = true)
      (ih : (P ∧ ∀ u ∈ us.head?, u = .rightParen) ∨
        (∃ a, a.isOperator = true ∧ [a, .rightParen] <:+: us) ∨
        ∃ a ∈ us.getLast?, a.isOperator = true) :
      (∃ a, a.isOperator = true ∧ [a, .rightParen] <:+: t :: us) ∨
        ∃ a ∈ (t :: us).getLast?, a.isOperator = true := by
    rcases ih with ⟨hp, hhead⟩ | ⟨a, ha, hin⟩ | ⟨a, ha, haop⟩
    · cases us with
      | nil => exact .inr ⟨t, rfl, hop hp⟩
      | cons u us =>
        obtain rfl := hhead u rfl
        exact .inl ⟨t, hop hp, [], us, rfl⟩
    · exact .inl ⟨a, ha, hin.trans (List.suffix_cons t us).isInfix⟩
    · exact .inr ⟨a, by simp [List.getLast?_cons, Option.mem_def.mp ha], haop⟩
  induction h with
  | stop => cases hpos
  | lack => exact .inl ⟨rfl, by simp⟩
  | operand _ _ _ ih | leftParen _ _ ih | rightParen _ ih =>
    exact .inr (lift (fun h => nomatch h) (ih hpos))
  | not _ _ ih | binary _ _ ih => exact .inr (lift (fun _ => rfl) (ih hpos))
  | lackParen _ _ => exact .inl ⟨rfl, by simp⟩

end Reading

/-! ## Derivations -/

/-- Some tree is derived from the tokens. -/
def Phrase (v : Vocabulary) (ts : List Token) : Prop := ∃ e, Derives v .disjunction ts e

/-- The tokens make a phrase of every atom in front of them. -/
def Extends (v : Vocabulary) (ts : List Token) : Prop :=
  ∀ {us : List Token} {e : Expr}, Derives v .atom us e → Phrase v (us ++ ts)

namespace Derives

variable {ts us : List Token} {e f : Expr}

theorem phrase (h : Derives v .atom ts e) : Phrase v ts :=
  ⟨e, .conjunction (.negation (.atom h))⟩

theorem not_conjunction : ∀ {ts : List Token} {e : Expr}, Derives v .conjunction ts e →
    ∃ g, Derives v .conjunction (v.operator .not :: ts) g
  | _, _, .negation h => ⟨_, .negation (.not h)⟩
  | _, _, .and l r =>
    have ⟨_, h⟩ := l.not_conjunction
    ⟨_, .and h r⟩

/-- NOT in front of a phrase belongs to its first operand. -/
theorem not_disjunction : ∀ {ts : List Token} {e : Expr}, Derives v .disjunction ts e →
    Phrase v (v.operator .not :: ts)
  | _, _, .conjunction h =>
    have ⟨_, h⟩ := h.not_conjunction
    ⟨_, .conjunction h⟩
  | _, _, .or l r =>
    have ⟨_, h⟩ := l.not_disjunction
    ⟨_, .or h r⟩

theorem and_conjunction (l : Derives v .conjunction ts e) : ∀ {us : List Token} {f : Expr},
    Derives v .conjunction us f → ∃ g, Derives v .conjunction (ts ++ v.operator .and :: us) g
  | _, _, .negation h => ⟨_, .and l h⟩
  | _, _, .and m r => by
    obtain ⟨_, h⟩ := l.and_conjunction m
    exact ⟨_, by simpa using Derives.and h r⟩

/-- A conjunction joined to a phrase by AND takes in its first conjunction. -/
theorem and_disjunction (l : Derives v .conjunction ts e) : ∀ {us : List Token} {f : Expr},
    Derives v .disjunction us f → Phrase v (ts ++ v.operator .and :: us)
  | _, _, .conjunction h =>
    have ⟨_, h⟩ := l.and_conjunction h
    ⟨_, .conjunction h⟩
  | _, _, .or m r => by
    obtain ⟨_, h⟩ := l.and_disjunction m
    exact ⟨_, by simpa using Derives.or h r⟩

theorem or_disjunction (l : Derives v .disjunction ts e) : ∀ {us : List Token} {f : Expr},
    Derives v .disjunction us f → Phrase v (ts ++ v.operator .or :: us)
  | _, _, .conjunction h => ⟨_, .or l h⟩
  | _, _, .or m r => by
    obtain ⟨_, h⟩ := l.or_disjunction m
    exact ⟨_, by simpa using Derives.or h r⟩

end Derives

/-- A binary operator and a phrase extend every atom. -/
theorem Phrase.extends {ts : List Token} (h : Phrase v ts) {c : Connective} (hc : c ≠ .not) :
    Extends v (v.operator c :: ts) := by
  intro us e hatom
  obtain ⟨f, hf⟩ := h
  have hconj : Derives v .conjunction us e := .negation (.atom hatom)
  cases c with
  | not => exact absurd rfl hc
  | and => exact hconj.and_disjunction hf
  | or => exact (Derives.conjunction hconj).or_disjunction hf

/-- What the tokens up to the next closing parenthesis have to be. -/
def Due.Piece (v : Vocabulary) : Due → List Token → Prop
  | .first | .operand => Phrase v
  | .operator => Extends v

/-- Tokens cut at the parentheses that close what is open: a first piece, and behind each of
these parentheses a piece that extends the group. -/
def Segments (v : Vocabulary) (P : List Token → Prop) : Nat → List Token → Prop
  | 0, ts => P ts
  | depth + 1, ts =>
    ∃ us rest, ts = us ++ .rightParen :: rest ∧ P us ∧ Segments v (Extends v) depth rest

/-- Tokens in front of the first piece change that piece only. -/
theorem Segments.prepend {P Q : List Token → Prop} {ts : List Token} {depth : Nat}
    (xs : List Token) (h : Segments v P depth ts) (hPQ : ∀ us, P us → Q (xs ++ us)) :
    Segments v Q depth (xs ++ ts) := by
  cases depth with
  | zero => exact hPQ ts h
  | succ depth =>
    obtain ⟨us, rest, rfl, hus, hrest⟩ := h
    exact ⟨xs ++ us, rest, by simp, hPQ us hus, hrest⟩

theorem Due.piece_of_phrase {due : Due} (h : due ≠ .operator) {ts : List Token}
    (hts : Phrase v ts) : due.Piece v ts := by
  cases due with
  | operator => exact absurd rfl h
  | _ => exact hts

/-- A reading that lacks nothing is a derivation in pieces. -/
theorem Reading.segments {due : Due} {depth : Nat} {ts : List Token}
    (h : Reading v due depth 0 ts) : Segments v (due.Piece v) depth ts := by
  generalize hl : 0 = lacking at h
  induction h with
  | stop => exact fun hatom => by simpa using hatom.phrase
  | lack => cases hl
  | operand hdue mem _ ih =>
    exact (ih hl).prepend [_] fun us hus => Due.piece_of_phrase hdue (hus (.operand mem))
  | leftParen hdue _ ih =>
    obtain ⟨us, rest, rfl, ⟨e, he⟩, hrest⟩ := ih hl
    have hpiece := hrest.prepend (.leftParen :: us ++ [.rightParen]) fun qs hqs =>
      Due.piece_of_phrase hdue (hqs (.group he))
    simpa using hpiece
  | not hdue _ ih =>
    exact (ih hl).prepend [v.operator .not] fun us ⟨e, he⟩ =>
      Due.piece_of_phrase hdue he.not_disjunction
  | @binary _ _ c _ hc _ ih =>
    exact (ih hl).prepend [v.operator c] fun us hus => Phrase.extends hus hc
  | rightParen _ ih => exact ⟨[], _, rfl, fun hatom => by simpa using hatom.phrase, ih hl⟩
  | lackParen => cases hl

/-- An expression that can be read from its beginning with nothing missing is derived. -/
theorem Reading.derives {ts : List Token} (h : Reading v .first 0 0 ts) :
    ∃ e, Derives v .disjunction ts e := h.segments

end InfixLogic
