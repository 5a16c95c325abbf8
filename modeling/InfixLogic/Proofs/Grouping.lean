import InfixLogic.Proofs.Conversion
import InfixLogic.Proofs.Derivation

/- How the conversion groups what a derivation groups.

   `Emits v s ts e`: wherever a run meets the tokens `ts`, with any output so far and any stack
   whose top does not give way to the connective of the level `s`, it leaves that stack in place
   below some operators of the level or above, and the output with these operators behind it is
   the output so far with the postorder of `e`.

   The grammar groups chains of AND and of OR to the left. A connective that groups to the right
   releases nothing of its own rank, and its chains come out turned the other way (`Regroups`),
   which changes neither operands nor values. Whatever continues a chain is met by what has been
   read of it already, so the induction carries this along (`Chain`).

   A NOT that does not group to the right does not wait for a NOT behind it. Apart from this every
   derivation emits a regrouping of its tree, in every ranked vocabulary (`Derives.converts`,
   `Derives.toPostfix_regroups`). -/

namespace InfixLogic

/-- The connective of a level, which is NOT below conjunctions. -/
def Stratum.connective : Stratum → Connective
  | .atom | .negation => .not
  | .conjunction => .and
  | .disjunction => .or

/-! ## Which operator goes first -/

section Order
variable {v : Vocabulary} {c d : Connective} {s s' : Stratum} {stack : List Token}

/-- An operator that groups to the left lets those of its rank and above go first. -/
theorem yields_of_left (h : v.groupsRight c = false) (d : Connective) :
    Conversion.yields (v.operator c) (v.operator d) = decide (v.rank c ≤ v.rank d) := by
  simp [Conversion.yields, Vocabulary.operator, h]

/-- An operator that groups to the right lets those above its rank go first. -/
theorem yields_of_right (h : v.groupsRight c = true) (d : Connective) :
    Conversion.yields (v.operator c) (v.operator d) = decide (v.rank c < v.rank d) := by
  simp [Conversion.yields, Vocabulary.operator, h]

theorem yields_of_lt (h : v.rank c < v.rank d) :
    Conversion.yields (v.operator c) (v.operator d) = true := by
  cases hright : v.groupsRight c
  · simp [yields_of_left hright, Int.le_of_lt h]
  · simp [yields_of_right hright, h]

theorem not_yields_of_lt (h : v.rank d < v.rank c) :
    Conversion.yields (v.operator c) (v.operator d) = false := by
  cases hright : v.groupsRight c
  · simp [yields_of_left hright, h]
  · simp [yields_of_right hright, Int.le_of_lt h]

/-- The top of a stack does not give way to the connective of a level. -/
def Waits (v : Vocabulary) (s : Stratum) (stack : List Token) : Prop :=
  ∀ top ∈ stack.head?, Conversion.yields (v.operator s.connective) top = false

theorem Waits.nil (v : Vocabulary) (s : Stratum) : Waits v s [] :=
  fun _ htop => nomatch htop

theorem Waits.marker (v : Vocabulary) (s : Stratum) (stack : List Token) :
    Waits v s (.leftParen :: stack) := by
  intro top htop
  obtain rfl : Token.leftParen = top := by simpa using htop
  rfl

theorem Waits.operator
    (h : Conversion.yields (v.operator s.connective) (v.operator d) = false)
    (stack : List Token) : Waits v s (v.operator d :: stack) := by
  intro top htop
  obtain rfl : v.operator d = top := by simpa using htop
  exact h

/-- What does not give way to a weak connective does not give way to a stronger one. -/
theorem Waits.of_lt (hlt : v.rank s'.connective < v.rank s.connective) (h : Waits v s' stack) :
    Waits v s stack := by
  intro top htop
  have htop' := h top htop
  by_cases hop : top.tag = .operator
  · have hprec : top.precedence ≤ v.rank s'.connective := by
      cases hright : v.groupsRight s'.connective <;>
        simp [Conversion.yields, Vocabulary.operator, hright, hop] at htop' <;> omega
    cases hright : v.groupsRight s.connective <;>
      simp [Conversion.yields, Vocabulary.operator, hop, hright] <;> omega
  · simp [Conversion.yields, hop]

end Order

/-! ## What a run puts out -/

/-- A run over `ts` puts out the postorder of `e`, apart from operators of the level or above
that still wait on top of `stack`. -/
def EmitsAbove (v : Vocabulary) (s : Stratum) (stack ts : List Token) (e : Expr) : Prop :=
  ∀ (i : Nat) (output : List Token),
    ∃ output' pending, (∀ t ∈ pending, ∃ c, t = v.operator c ∧ v.rank s.connective ≤ v.rank c) ∧
      Conversion.run i ⟨output, stack⟩ ts = .ok ⟨output', pending ++ stack⟩ ∧
      pending.reverse ++ output' = (e.postorder v).reverse ++ output

/-- It does so above every stack whose top does not give way to the connective of the level. -/
def Emits (v : Vocabulary) (s : Stratum) (ts : List Token) (e : Expr) : Prop :=
  ∀ stack, Waits v s stack → EmitsAbove v s stack ts e

/-- A run over `ts` puts out the postorder of `e` and leaves the stack as it is. -/
def Delivers (v : Vocabulary) (ts : List Token) (e : Expr) : Prop :=
  ∀ (i : Nat) (output stack : List Token),
    Conversion.run i ⟨output, stack⟩ ts = .ok ⟨(e.postorder v).reverse ++ output, stack⟩

section Runs
variable {v : Vocabulary} {ts us : List Token} {e f g : Expr} {s s' : Stratum}

namespace Delivers

theorem operand {t : Token} (ht : t.tag = .operand) : Delivers v [t] (.operand t) :=
  fun i output stack => Conversion.run_cons (.operand ht output stack) i []

theorem group (h : Emits v .disjunction ts e) :
    Delivers v (.leftParen :: ts ++ [.rightParen]) e := by
  intro i output stack
  -- Above the marker the group runs as if nothing else were on the stack.
  obtain ⟨output', pending, hpending, hrun, hout⟩ :=
    h (.leftParen :: stack) (.marker v _ stack) (i + 1) output
  have hops : ∀ o ∈ pending, o.tag ≠ .leftParen := by
    intro o ho
    obtain ⟨c, rfl, -⟩ := hpending o ho
    simp
  rw [← hout, Conversion.run_append, Conversion.run_cons (.leftParen rfl output stack), hrun]
  exact Conversion.run_cons (.rightParen rfl output' pending stack .leftParen hops rfl) _ []

theorem above (h : Delivers v ts e) (s : Stratum) (stack : List Token) :
    EmitsAbove v s stack ts e :=
  fun i output => ⟨(e.postorder v).reverse ++ output, [], nofun, h i output stack, rfl⟩

end Delivers

namespace Emits

/-- A NOT waits below what it negates. -/
theorem not (h : ∀ stack, EmitsAbove v .negation (v.operator .not :: stack) ts e) :
    Emits v .negation (v.operator .not :: ts) (.not e) := by
  intro stack hwaits i output
  have hmoves := Conversion.Moves.operator (t := v.operator .not) rfl output [] stack (by simp)
    hwaits
  obtain ⟨output', pending, hpending, hrun, hout⟩ := h stack (i + 1) output
  refine ⟨output', pending ++ [v.operator .not], ?_, ?_, ?_⟩
  · intro t ht
    rcases List.mem_append.mp ht with ht | ht
    · exact hpending t ht
    · exact ⟨.not, by simpa using ht, Int.le_refl _⟩
  · rw [List.append_assoc]
    exact (Conversion.run_cons hmoves i ts).trans hrun
  · simp [Expr.postorder, hout]

/-- A level passes to the next one what it emits. -/
theorem weaken (h : Emits v s ts e) (hlt : v.rank s'.connective < v.rank s.connective) :
    Emits v s' ts e := by
  intro stack hwaits i output
  obtain ⟨output', pending, hpending, hrun, hout⟩ := h stack (hwaits.of_lt hlt) i output
  refine ⟨output', pending, ?_, hrun, hout⟩
  intro t ht
  obtain ⟨c, rfl, hc⟩ := hpending t ht
  exact ⟨c, rfl, by omega⟩

/-- A binary connective releases all that its left side has left on the stack, and waits there
for its right side. -/
theorem binary {l r : Stratum} (hl : Emits v l ts e) (hr : Emits v r us f)
    (hwaits : ∀ stack, Waits v s stack → Waits v l stack)
    (hreleased : ∀ d, v.rank l.connective ≤ v.rank d →
      Conversion.yields (v.operator s.connective) (v.operator d) = true)
    (hkept : Conversion.yields (v.operator r.connective) (v.operator s.connective) = false)
    (hle : v.rank s.connective ≤ v.rank r.connective)
    (hg : g.postorder v = e.postorder v ++ f.postorder v ++ [v.operator s.connective]) :
    Emits v s (ts ++ v.operator s.connective :: us) g := by
  intro stack hstack i output
  obtain ⟨output₁, pending₁, hpending₁, hrun₁, hout₁⟩ := hl stack (hwaits stack hstack) i output
  -- All that the left side has left on the stack goes out before the connective goes on it.
  have hgone : ∀ o ∈ pending₁, Conversion.yields (v.operator s.connective) o = true := by
    intro o ho
    obtain ⟨c, rfl, hc⟩ := hpending₁ o ho
    exact hreleased c hc
  have hmoves := Conversion.Moves.operator rfl output₁ pending₁ stack hgone hstack
  obtain ⟨output₂, pending₂, hpending₂, hrun₂, hout₂⟩ :=
    hr (v.operator s.connective :: stack) (.operator hkept stack) (i + ts.length + 1)
      (pending₁.reverse ++ output₁)
  refine ⟨output₂, pending₂ ++ [v.operator s.connective], ?_, ?_, ?_⟩
  · intro t ht
    rcases List.mem_append.mp ht with ht | ht
    · obtain ⟨c, rfl, hc⟩ := hpending₂ t ht
      exact ⟨c, rfl, by omega⟩
    · exact ⟨s.connective, by simpa using ht, Int.le_refl _⟩
  · rw [Conversion.run_append, hrun₁, List.append_assoc]
    exact (Conversion.run_cons hmoves _ us).trans hrun₂
  · calc (pending₂ ++ [v.operator s.connective]).reverse ++ output₂
        = v.operator s.connective :: (pending₂.reverse ++ output₂) := by simp
      _ = v.operator s.connective ::
            ((f.postorder v).reverse ++ (pending₁.reverse ++ output₁)) := by rw [hout₂]
      _ = v.operator s.connective ::
            ((f.postorder v).reverse ++ ((e.postorder v).reverse ++ output)) := by rw [hout₁]
      _ = (g.postorder v).reverse ++ output := by simp [hg]

end Emits

end Runs

/-! ## Chains -/

/-- The second tree is the first one, where chains of a connective that groups to the right may be
turned to the right. -/
inductive Regroups (v : Vocabulary) : Expr → Expr → Prop where
  | refl (e : Expr) : Regroups v e e
  | trans {e f g : Expr} (first : Regroups v e f) (second : Regroups v f g) : Regroups v e g
  | not {e e' : Expr} (inner : Regroups v e e') : Regroups v (.not e) (.not e')
  | and {e e' f f' : Expr} (left : Regroups v e e') (right : Regroups v f f') :
      Regroups v (.and e f) (.and e' f')
  | or {e e' f f' : Expr} (left : Regroups v e e') (right : Regroups v f f') :
      Regroups v (.or e f) (.or e' f')
  | and_assoc (h : v.groupsRight .and = true) (e f g : Expr) :
      Regroups v (.and (.and e f) g) (.and e (.and f g))
  | or_assoc (h : v.groupsRight .or = true) (e f g : Expr) :
      Regroups v (.or (.or e f) g) (.or e (.or f g))

namespace Regroups

variable {v : Vocabulary} {e e' : Expr}

theorem operands_eq (h : Regroups v e e') : e'.operands = e.operands := by
  induction h with
  | refl => rfl
  | trans _ _ ih ih' => exact ih'.trans ih
  | not _ ih => exact ih
  | and _ _ ih ih' | or _ _ ih ih' => rw [Expr.operands, Expr.operands, ih, ih']
  | and_assoc | or_assoc => simp [Expr.operands]

theorem eval_eq (h : Regroups v e e') (env : Text → Bool) : e'.eval env = e.eval env := by
  induction h with
  | refl => rfl
  | trans _ _ ih ih' => exact ih'.trans ih
  | not _ ih => rw [Expr.eval, Expr.eval, ih]
  | and _ _ ih ih' | or _ _ ih ih' => rw [Expr.eval, Expr.eval, ih, ih']
  | and_assoc => exact (Bool.and_assoc _ _ _).symm
  | or_assoc => exact (Bool.or_assoc _ _ _).symm

/-- Where both connectives group to the left nothing is turned. -/
theorem eq_of_left (hand : v.groupsRight .and = false) (hor : v.groupsRight .or = false)
    (h : Regroups v e e') : e' = e := by
  induction h with
  | refl => rfl
  | trans _ _ ih ih' => exact ih'.trans ih
  | not _ ih => rw [ih]
  | and _ _ ih ih' | or _ _ ih ih' => rw [ih, ih']
  | and_assoc h => cases hand.symm.trans h
  | or_assoc h => cases hor.symm.trans h

end Regroups

/-- How a level of chains puts parts of the level below together. -/
structure ChainLevel (v : Vocabulary) (s part : Stratum) (join : Expr → Expr → Expr) : Prop where
  lt : v.rank s.connective < v.rank part.connective
  postorder : ∀ e f, (join e f).postorder v =
    e.postorder v ++ f.postorder v ++ [v.operator s.connective]
  operands : ∀ e f, (join e f).operands = e.operands ++ f.operands
  congr : ∀ {e e' f f'}, Regroups v e e' → Regroups v f f' → Regroups v (join e f) (join e' f')
  assoc : v.groupsRight s.connective = true → ∀ e f g,
    Regroups v (join (join e f) g) (join e (join f g))

theorem chainLevel_and {v : Vocabulary} (hv : v.Ranked) :
    ChainLevel v .conjunction .negation .and where
  lt := hv.and_lt_not
  postorder := fun _ _ => rfl
  operands := fun _ _ => rfl
  congr := .and
  assoc := .and_assoc

theorem chainLevel_or {v : Vocabulary} (hv : v.Ranked) :
    ChainLevel v .disjunction .conjunction .or where
  lt := hv.or_lt_and
  postorder := fun _ _ => rfl
  operands := fun _ _ => rfl
  congr := .or
  assoc := .or_assoc

/-- A chain as a run takes it. Where its connective groups to the right, the last part still waits
for what continues the chain. -/
structure Chain (v : Vocabulary) (s : Stratum) (join : Expr → Expr → Expr) (ts : List Token)
    (e : Expr) : Prop where
  emits : ∃ e', Regroups v e e' ∧ Emits v s ts e'
  continued : v.groupsRight s.connective = true → ∀ us f, Emits v s us f →
    ∃ g, Regroups v (join e f) g ∧ Emits v s (ts ++ v.operator s.connective :: us) g

namespace ChainLevel

variable {v : Vocabulary} {s part : Stratum} {join : Expr → Expr → Expr} {ts us : List Token}
  {e e' f f' : Expr}

theorem emits_left (hc : ChainLevel v s part join) (hleft : v.groupsRight s.connective = false)
    (h : Emits v s ts e) (h' : Emits v part us f) :
    Emits v s (ts ++ v.operator s.connective :: us) (join e f) :=
  h.binary h' (fun _ => id) (fun d hd => by simpa [yields_of_left hleft] using hd)
    (not_yields_of_lt hc.lt) (Int.le_of_lt hc.lt) (hc.postorder e f)

theorem emits_right (hc : ChainLevel v s part join) (hright : v.groupsRight s.connective = true)
    (h : Emits v part ts e) (h' : Emits v s us f) :
    Emits v s (ts ++ v.operator s.connective :: us) (join e f) :=
  h.binary h' (fun _ => Waits.of_lt hc.lt)
    (fun _ hd => yields_of_lt (Int.lt_of_lt_of_le hc.lt hd))
    (by simp [yields_of_right hright]) (Int.le_refl _) (hc.postorder e f)

/-- A part alone is a chain. -/
theorem single (hc : ChainLevel v s part join) (hr : Regroups v e e') (h : Emits v part ts e') :
    Chain v s join ts e where
  emits := ⟨e', hr, h.weaken hc.lt⟩
  continued := fun hright _ f hf =>
    ⟨join e' f, hc.congr hr (.refl f), hc.emits_right hright h hf⟩

/-- A chain with one more part is a chain. -/
theorem append (hc : ChainLevel v s part join) (h : Chain v s join ts e) (hr : Regroups v f f')
    (h' : Emits v part us f') :
    Chain v s join (ts ++ v.operator s.connective :: us) (join e f) where
  emits := by
    cases hright : v.groupsRight s.connective with
    | false =>
      obtain ⟨e', he, hemits⟩ := h.emits
      exact ⟨join e' f', hc.congr he hr, hc.emits_left hright hemits h'⟩
    | true =>
      obtain ⟨g, hg, hemits⟩ := h.continued hright us f' (h'.weaken hc.lt)
      exact ⟨g, (hc.congr (.refl e) hr).trans hg, hemits⟩
  continued := by
    intro hright ws g hws
    -- The new part and what continues the chain are what continues the old one.
    obtain ⟨k, hk, hemits⟩ := h.continued hright _ _ (hc.emits_right hright h' hws)
    refine ⟨k, ?_, by simpa using hemits⟩
    exact ((hc.assoc hright e f g).trans (hc.congr (.refl e) (hc.congr hr (.refl g)))).trans hk

end ChainLevel

/-! ## Derivations -/

/-- Where a NOT stands right behind a NOT, NOT groups to the right. -/
def NegationsWait (v : Vocabulary) (ts : List Token) : Prop :=
  [v.operator .not, v.operator .not] <:+: ts → v.groupsRight .not = true

theorem NegationsWait.of_infix {v : Vocabulary} {ts us : List Token} (h : NegationsWait v ts)
    (hin : us <:+: ts) : NegationsWait v us :=
  fun hpair => h (hpair.trans hin)

/-- What a run does with a derivation of a level. -/
def Converts (v : Vocabulary) : Stratum → List Token → Expr → Prop
  | .atom, ts, e => ∃ e', Regroups v e e' ∧ Delivers v ts e'
  | .negation, ts, e => ∃ e', Regroups v e e' ∧ Emits v .negation ts e' ∧
      (ts.head? ≠ some (v.operator .not) → Delivers v ts e')
  | .conjunction, ts, e => Chain v .conjunction .and ts e
  | .disjunction, ts, e => Chain v .disjunction .or ts e

namespace Derives

variable {v : Vocabulary} {s : Stratum} {ts : List Token} {e : Expr}

theorem converts (hv : v.Ranked) (h : Derives v s ts e) (hn : NegationsWait v ts) :
    Converts v s ts e := by
  induction h with
  | operand mem => exact ⟨_, .refl _, .operand (Vocabulary.operand_tag mem)⟩
  | group _ ih =>
    obtain ⟨e', hr, he⟩ := (ih (hn.of_infix ⟨[.leftParen], [.rightParen], rfl⟩)).emits
    exact ⟨e', hr, .group he⟩
  | atom _ ih =>
    obtain ⟨e', hr, he⟩ := ih hn
    exact ⟨e', hr, fun stack _ => he.above .negation stack, fun _ => he⟩
  | @not ts e _ ih =>
    obtain ⟨e', hr, he, hdelivers⟩ := ih (hn.of_infix (List.suffix_cons _ ts).isInfix)
    refine ⟨.not e', .not hr, .not fun stack => ?_, fun hhead => absurd rfl hhead⟩
    by_cases hhead : ts.head? = some (v.operator .not)
    · -- The inner NOT goes on the stack above the outer one.
      obtain ⟨us, rfl⟩ := List.head?_eq_some_iff.mp hhead
      have hright := hn ⟨[], us, rfl⟩
      exact he _ (.operator (by simp [yields_of_right hright, Stratum.connective]) stack)
    · exact (hdelivers hhead).above .negation _
  | negation _ ih =>
    obtain ⟨e', hr, he, -⟩ := ih hn
    exact (chainLevel_and hv).single hr he
  | @and ts us e f _ _ ihl ihr =>
    obtain ⟨f', hr, hf, -⟩ := ihr (hn.of_infix ⟨ts ++ [v.operator .and], [], by simp⟩)
    exact (chainLevel_and hv).append (ihl (hn.of_infix (List.prefix_append ts _).isInfix)) hr hf
  | conjunction _ ih =>
    obtain ⟨e', hr, he⟩ := (ih hn).emits
    exact (chainLevel_or hv).single hr he
  | @or ts us e f _ _ ihl ihr =>
    obtain ⟨f', hr, hf⟩ := (ihr (hn.of_infix ⟨ts ++ [v.operator .or], [], by simp⟩)).emits
    exact (chainLevel_or hv).append (ihl (hn.of_infix (List.prefix_append ts _).isInfix)) hr hf

theorem emits (hv : v.Ranked) (h : Derives v s ts e) (hn : NegationsWait v ts) :
    ∃ e', Regroups v e e' ∧ Emits v s ts e' := by
  have hconverts := h.converts hv hn
  cases s with
  | atom =>
    obtain ⟨e', hr, he⟩ := hconverts
    exact ⟨e', hr, fun stack _ => he.above .atom stack⟩
  | negation =>
    obtain ⟨e', hr, he, -⟩ := hconverts
    exact ⟨e', hr, he⟩
  | conjunction => exact hconverts.emits
  | disjunction => exact hconverts.emits

/-- The postfix form of a derived expression is the postorder of a regrouping of its tree. -/
theorem toPostfix_regroups (hv : v.Ranked) (h : Derives v s ts e) (hn : NegationsWait v ts) :
    ∃ e', Regroups v e e' ∧ v.toPostfix (Token.items ts) = .ok (e'.postorder v) := by
  obtain ⟨e', hr, he⟩ := h.emits hv hn
  obtain ⟨output, pending, hpending, hrun, hout⟩ := he [] (.nil v s) 0 []
  refine ⟨e', hr, ?_⟩
  rw [← hv.map_canonicalToken h.mem_tokens] at hrun
  rw [Vocabulary.toPostfix_of_run hrun]
  · have := congrArg List.reverse hout
    simpa using this
  · intro t ht
    obtain ⟨c, rfl, -⟩ := hpending t (by simpa using ht)
    simp

end Derives

end InfixLogic
