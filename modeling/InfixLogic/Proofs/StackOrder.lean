import Mathlib.Data.List.Chain
import InfixLogic.Proofs.Conversion

/- The order in which operators wait.

   An operator goes on the stack when the operators that yield to it are gone, so the one below it
   is of a lower precedence, or of the same one if the newcomer groups to the right. A marker hides
   what is below it. `Ordered` says so of a stack; every move of a conversion keeps it, whatever the
   precedences and the groupings of the tokens are (`Ordered.move`, `Ordered.run`).

   What leaves the stack leaves from its top and does not go past a marker. So the operators that an
   incoming one releases, those above the marker of a closing parenthesis and those that are left at
   the end go to the output in descending order of precedence (`Releases`, `stack_ordered`). -/

namespace InfixLogic

namespace Conversion

/-- `a` may wait right above `b`. Nothing is asked where one of them is a marker. -/
structure Rests (a b : Token) : Prop where
  precedence : a.tag = .operator → b.tag = .operator → b.precedence ≤ a.precedence
  /-- Where precedences are equal the upper operator groups to the right. -/
  strict : a.tag = .operator → b.tag = .operator → a.rightAssoc = false →
    b.precedence < a.precedence

/-- A stack of operators and markers, its top first, in which every token may wait above the next
one. -/
structure Ordered (stack : List Token) : Prop where
  members : ∀ t ∈ stack, t.tag = .operator ∨ t.tag = .leftParen
  chain : stack.IsChain Rests

/-- Operators one after another whose precedences do not rise. -/
structure Descending (ops : List Token) : Prop where
  operators : ∀ o ∈ ops, o.tag = .operator
  precedences : (ops.map Token.precedence).Pairwise (· ≥ ·)

variable {s s' : Conversion} {t : Token} {stack : List Token}

/-! ## Moves and runs -/

theorem rests_of_marker {a b : Token} (h : a.tag ≠ .operator) : Rests a b where
  precedence := fun ha => absurd ha h
  strict := fun ha => absurd ha h

/-- An operator may wait above what does not yield to it. -/
theorem rests_of_not_yields {a b : Token} (h : yields a b = false) : Rests a b := by
  -- The two comparisons of `yields` fail, each for its own grouping.
  have hnot : b.tag = .operator →
      if a.rightAssoc then b.precedence ≤ a.precedence else b.precedence < a.precedence := by
    intro hb
    cases hright : a.rightAssoc <;> simpa [yields, hb, hright] using h
  constructor
  · intro _ hb
    have := hnot hb
    split at this <;> omega
  · intro _ hb hleft
    have := hnot hb
    rwa [hleft] at this

namespace Ordered

theorem push (h : Ordered stack) (ht : t.tag = .operator ∨ t.tag = .leftParen)
    (hrests : ∀ top ∈ stack.head?, Rests t top) : Ordered (t :: stack) where
  members := List.forall_mem_cons.mpr ⟨ht, h.members⟩
  chain := List.isChain_cons.mpr ⟨hrests, h.chain⟩

theorem below {upper : List Token} (h : Ordered (upper ++ stack)) : Ordered stack where
  members := fun t ht => h.members t (List.mem_append_right upper ht)
  chain := h.chain.right_of_append

theorem move (h : Ordered s.stack) (hm : Moves t s s') : Ordered s'.stack := by
  cases hm with
  | operand => exact h
  | operator tag _ ops rest _ kept =>
    -- What is left below the newcomer begins with a token that did not yield to it.
    exact h.below.push (.inl tag) fun top htop => rests_of_not_yields (kept top htop)
  | leftParen tag => exact h.push (.inr tag) fun _ _ => rests_of_marker (by simp [tag])
  | rightParen _ _ ops rest m =>
    have hsegment : Ordered ((ops ++ [m]) ++ rest) := by simpa using h
    exact hsegment.below

theorem run {i : Nat} {ts : List Token} (h : Ordered s.stack) (hrun : run i s ts = .ok s') :
    Ordered s'.stack := by
  induction ts generalizing i s with
  | nil =>
    obtain rfl := Except.ok.inj hrun
    exact h
  | cons t ts ih =>
    obtain ⟨m, hm, hrest⟩ := run_cons_ok hrun
    exact ih (h.move hm) hrest

/-! ## What leaves the stack -/

/-- Operators on top of the stack, with no marker among them, are in descending order. -/
theorem descending {ops : List Token} (h : Ordered (ops ++ stack))
    (hops : ∀ o ∈ ops, o.tag = .operator) : Descending ops where
  operators := hops
  precedences := by
    have hchain : ops.IsChain fun a b => a.precedence ≥ b.precedence :=
      h.chain.left_of_append.imp_of_mem_imp fun a b ha hb hrests =>
        hrests.precedence (hops a ha) (hops b hb)
    exact ((List.isChain_map Token.precedence).mpr hchain).pairwise

theorem operator_of_mem (h : Ordered stack) (ht : t ∈ stack) (hno : t.tag ≠ .leftParen) :
    t.tag = .operator :=
  (h.members t ht).resolve_right hno

/-- The stack is in descending order, down to the topmost marker if there is one. -/
theorem segment (h : Ordered stack) :
    ((∀ t ∈ stack, t.tag ≠ .leftParen) ∧ Descending stack) ∨
      ∃ gone m kept, stack = gone ++ m :: kept ∧ (∀ o ∈ gone, o.tag ≠ .leftParen) ∧
        m.tag = .leftParen ∧ Descending gone := by
  rcases marker_cases stack with hno | ⟨gone, m, kept, rfl, hgone, hm⟩
  · have hall : Ordered (stack ++ []) := by rwa [List.append_nil]
    exact .inl ⟨hno, hall.descending fun o ho => h.operator_of_mem ho (hno o ho)⟩
  · have hops : ∀ o ∈ gone, o.tag = .operator := fun o ho =>
      h.operator_of_mem (List.mem_append_left _ ho) (hgone o ho)
    exact .inr ⟨gone, m, kept, rfl, hgone, hm, h.descending hops⟩

end Ordered

/-- What a conversion takes off its stack goes to the output in descending order of precedence:
`gone` are the tokens that leave, the first one first. -/
structure Releases (s : Conversion) : Prop where
  /-- An incoming operator takes the top of the stack off. -/
  incoming : ∀ i t, t.tag = .operator → ∃ gone kept, s.stack = gone ++ kept ∧ Descending gone ∧
    s.step i t = .ok ⟨gone.reverse ++ s.output, t :: kept⟩
  /-- A closing parenthesis takes off all that is above the topmost marker, or everything. -/
  closing : ∀ i t, t.tag = .rightParen →
    (∃ gone m kept, s.stack = gone ++ m :: kept ∧ m.tag = .leftParen ∧ Descending gone ∧
      s.step i t = .ok ⟨gone.reverse ++ s.output, kept⟩) ∨
    Descending s.stack ∧ s.step i t = .error (.unmatchedClosing i)
  /-- The end takes off everything, or all that is above the topmost marker. -/
  ending : (Descending s.stack ∧ finish? s.output s.stack = some (s.output.reverse ++ s.stack)) ∨
    ∃ gone m kept, s.stack = gone ++ m :: kept ∧ m.tag = .leftParen ∧ Descending gone ∧
      finish? s.output s.stack = none

theorem Ordered.releases (h : Ordered s.stack) : Releases s where
  incoming := by
    intro i t tag
    have hsplit := List.takeWhile_append_dropWhile (p := yields t) (l := s.stack)
    refine ⟨s.stack.takeWhile (yields t), s.stack.dropWhile (yields t), hsplit.symm, ?_, ?_⟩
    · rw [← hsplit] at h
      have hyields := List.all_eq_true.mp (List.all_takeWhile (p := yields t) (l := s.stack))
      exact h.descending fun o ho => operator_of_yields (hyields o ho)
    · simp [step, tag, release_eq]
  closing := by
    intro i t tag
    rcases h.segment with ⟨hno, hdesc⟩ | ⟨gone, m, kept, hstack, hgone, hm, hdesc⟩
    · exact .inr ⟨hdesc, by simp [step, tag, close?_eq_none _ hno]⟩
    · refine .inl ⟨gone, m, kept, hstack, hm, hdesc, ?_⟩
      simp [step, tag, hstack, close?_append _ hgone hm]
  ending := by
    rcases h.segment with ⟨hno, hdesc⟩ | ⟨gone, m, kept, hstack, -, hm, hdesc⟩
    · exact .inl ⟨hdesc, finish?_of_no_marker _ hno⟩
    · exact .inr ⟨gone, m, kept, hstack, hm, hdesc, finish?_of_marker _ (by simp [hstack]) hm⟩

end Conversion

/-- After any number of tokens the operators on the stack are in order, and whatever comes next,
they leave it in descending order of precedence. This is the stack of every longer sequence at that
place. -/
theorem stack_ordered {v : Vocabulary} {ts : List Token} {s : Conversion}
    (h : v.convertFrom 0 .start (Token.items ts) = .ok s) :
    Conversion.Ordered s.stack ∧ s.Releases ∧
      ∀ us, v.convertFrom 0 .start (Token.items (ts ++ us)) =
        v.convertFrom ts.length s (Token.items us) := by
  rw [Vocabulary.convertFrom_items] at h
  have hstart : Conversion.Ordered Conversion.start.stack := ⟨nofun, .nil⟩
  have hordered := hstart.run h
  refine ⟨hordered, hordered.releases, fun us => ?_⟩
  rw [Vocabulary.convertFrom_items, Vocabulary.convertFrom_items, List.map_append,
    Conversion.run_append, h, List.length_map, Nat.zero_add]
  rfl

/-- The case of `A IMPLIES B IMPLIES C && !`, where IMPLIES has a negative precedence and groups to
the right, and of a closing parenthesis and the end behind it. -/
theorem stack_ordered_implies :
    Conversion.Ordered [Vocabulary.standard.operator .not, Vocabulary.standard.operator .and,
        ⟨.operator, "IMPLIES", none, none, 2, -3, true⟩,
        ⟨.operator, "IMPLIES", none, none, 2, -3, true⟩] ∧
      Conversion.Releases ⟨[.variable "C", .variable "B", .variable "A"],
        [Vocabulary.standard.operator .not, Vocabulary.standard.operator .and,
          ⟨.operator, "IMPLIES", none, none, 2, -3, true⟩,
          ⟨.operator, "IMPLIES", none, none, 2, -3, true⟩]⟩ := by
  have hrun : Vocabulary.standard.convertFrom 0 .start (Token.items [.variable "A",
      ⟨.operator, "IMPLIES", none, none, 2, -3, true⟩, .variable "B",
      ⟨.operator, "IMPLIES", none, none, 2, -3, true⟩, .variable "C",
      Vocabulary.standard.operator .and, Vocabulary.standard.operator .not]) =
    .ok ⟨[.variable "C", .variable "B", .variable "A"],
      [Vocabulary.standard.operator .not, Vocabulary.standard.operator .and,
        ⟨.operator, "IMPLIES", none, none, 2, -3, true⟩,
        ⟨.operator, "IMPLIES", none, none, 2, -3, true⟩]⟩ := by decide
  obtain ⟨hordered, hreleases, -⟩ := stack_ordered hrun
  exact ⟨hordered, hreleases⟩

end InfixLogic
