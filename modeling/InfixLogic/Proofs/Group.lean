import InfixLogic.Proofs.Adjacency
import InfixLogic.Proofs.Balance

/- Groups.

   An expression that passes the check and whose parentheses match is `Closed`: it can stand
   between parentheses anywhere. The scan then goes through the group without a fault
   (`checkFrom_grouped`). The conversion runs inside of it as it would from an empty stack, since
   above the marker nothing that lies below is ever looked at (`Conversion.Moves.above`); so the
   group puts out its own postfix form in one piece and leaves the stack as it was
   (`Conversion.run_grouped`).

   What stands around a group can be any tokens at all. The scan tells of them the same kind of
   fault whatever the group is (`kind_validate_around`), and the conversion puts the same tokens
   in front of its postfix form and behind it, or fails whatever the group is
   (`toPostfix_around`). -/

namespace InfixLogic

/-- An expression between parentheses. -/
def Token.grouped (ts : List Token) : List Token := .leftParen :: (ts ++ [.rightParen])

open Token (grouped)

/-- What can stand between parentheses: it passes the check, and its own parentheses match. -/
structure Closed (v : Vocabulary) (ts : List Token) : Prop where
  checked : v.validate (Token.items ts) = .ok ()
  balanced : Balanced ts

/-! ## The scan -/

namespace Vocabulary

variable {v : Vocabulary} {previous : Option Token} {i : Nat}

/-- A scan that comes as far as `t` goes on from there. -/
theorem checkFrom_append_of_ok {xs : List Token} {t : Token}
    (h : v.checkFrom previous i (xs ++ [t]) = .ok ()) (us : List Token) :
    v.checkFrom previous i (xs ++ t :: us) =
      v.checkFrom (xs.getLast?.or previous) (i + xs.length) (t :: us) := by
  rw [checkFrom_append, bind_ok] at h
  obtain ⟨⟨⟩, hfront, -⟩ := h
  rw [List.head?_cons] at hfront
  rw [checkFrom_append, List.head?_cons, hfront]
  rfl

/-- An opening parenthesis passes in front of all but a closing one. -/
theorem checkToken_leftParen {next : Option Token} (h : ∀ n ∈ next, n.tag ≠ .rightParen) :
    v.checkToken previous i .leftParen next = .ok () := by
  rw [checkToken_ok_iff, checkOperand_ok_iff, checkSeparated_ok_iff, checkGroup_ok_iff,
    checkBinary_ok_iff, checkNegation_ok_iff]
  exact ⟨nofun, fun _ _ => nofun, fun n hn _ => h n hn, nofun, fun _ _ => nofun⟩

/-- A closing parenthesis is not concerned with what stands in front of it. -/
theorem checkFrom_rightParen (previous : Option Token) (us : List Token) :
    v.checkFrom previous i (.rightParen :: us) = v.checkFrom none i (.rightParen :: us) := by
  rw [checkFrom, checkFrom]
  congr 1

/-- An expression that passes the check passes the scan in front of a closing parenthesis too. -/
theorem checkFrom_closed {ts : List Token} (h : Closed v ts) :
    v.checkFrom previous i (ts.map v.canonicalToken ++ [.rightParen]) = .ok () := by
  obtain ⟨hne, hops, hchain, hhead, -⟩ := validate_ok_iff.mp h.checked
  have hlast {t : Token} (ht : t ∈ (ts.map v.canonicalToken).getLast?) : t.tag ≠ .leftParen :=
    Balanced.tag_of_getLast? ((BalancedFrom.map_canonicalToken_iff v).mpr h.balanced) ht
  rw [checkFrom_ok_iff, List.forall_mem_append, List.isChain_append, List.getLast?_concat,
    List.head?_append_of_ne_nil _ (by simpa using hne)]
  refine ⟨⟨hops, by simp [Token.isOperand]⟩, ⟨hchain, .singleton _, ?_⟩, ?_, ?_⟩
  · intro t ht n hn
    obtain rfl : Token.rightParen = n := by simpa using hn
    exact { separated := fun _ => rfl, filled := fun htag => absurd htag (hlast ht),
            preceded := fun hbin => absurd hbin (by decide) }
  · intro t ht hbin
    rw [hhead t ht] at hbin
    cases hbin
  · intro t ht
    obtain rfl : Token.rightParen = t := by simpa using ht
    rfl

/-- The scan goes through a group to its closing parenthesis. -/
theorem checkFrom_grouped {ts : List Token} (h : Closed v ts) (us : List Token) :
    v.checkFrom previous i (grouped (ts.map v.canonicalToken) ++ us) =
      v.checkFrom none (i + 1 + ts.length) (.rightParen :: us) := by
  have hne : ts.map v.canonicalToken ≠ [] := by simpa using (validate_ok_iff.mp h.checked).1
  have hbal : Balanced (ts.map v.canonicalToken) :=
    (BalancedFrom.map_canonicalToken_iff v).mpr h.balanced
  have hopen : v.checkToken previous i .leftParen
      (ts.map v.canonicalToken ++ .rightParen :: us).head? = .ok () := by
    apply checkToken_leftParen
    rw [List.head?_append_of_ne_nil _ hne]
    exact fun n hn => hbal.tag_of_head? hn
  rw [grouped, List.cons_append, List.append_assoc, checkFrom, List.singleton_append, hopen]
  show v.checkFrom (some .leftParen) (i + 1) (ts.map v.canonicalToken ++ .rightParen :: us) = _
  rw [checkFrom_append_of_ok (checkFrom_closed h), checkFrom_rightParen, List.length_map]

/-! ### Kinds of faults -/

/-- The kind of fault at a token does not depend on where it stands. -/
theorem kind_checkToken (v : Vocabulary) (previous : Option Token) (i j : Nat) (t : Token)
    (next : Option Token) :
    (v.checkToken previous i t next).mapError Fault.kind =
      (v.checkToken previous j t next).mapError Fault.kind := by
  have hbinary : (checkBinary previous i t next).mapError Fault.kind =
      (checkBinary previous j t next).mapError Fault.kind := by
    unfold checkBinary
    cases t.isBinary with
    | false => rfl
    | true =>
      cases previous with
      | none => rfl
      | some p =>
        cases next with
        | none => rfl
        | some n => exact told_guard rfl
  exact told_bind (told_guard rfl) fun _ => told_bind (told_guard rfl) fun _ =>
    told_bind (told_guard rfl) fun _ => told_bind hbinary fun _ => told_guard rfl

theorem kind_checkFrom (v : Vocabulary) (previous : Option Token) (i j : Nat) (ts : List Token) :
    (v.checkFrom previous i ts).mapError Fault.kind =
      (v.checkFrom previous j ts).mapError Fault.kind := by
  induction ts generalizing previous i j with
  | nil => rfl
  | cons t ts ih =>
    exact told_bind (kind_checkToken v previous i j t ts.head?) fun _ => ih (some t) (i + 1) (j + 1)

/-- Around a group the scan tells the same kind of fault whatever the group is. -/
theorem kind_checkFrom_around {es fs : List Token} (he : Closed v es) (hf : Closed v fs)
    (previous : Option Token) (i : Nat) (xs ys : List Token) :
    (v.checkFrom previous i (xs ++ grouped (es.map v.canonicalToken) ++ ys)).mapError Fault.kind =
      (v.checkFrom previous i (xs ++ grouped (fs.map v.canonicalToken) ++ ys)).mapError
        Fault.kind := by
  induction xs generalizing previous i with
  | nil =>
    rw [List.nil_append, List.nil_append, checkFrom_grouped he, checkFrom_grouped hf]
    exact kind_checkFrom v none _ _ _
  | cons x xs ih =>
    -- The token behind `x` is one of `xs` or the parenthesis, so `x` passes or fails the same.
    have hnext : (xs ++ grouped (es.map v.canonicalToken) ++ ys).head? =
        (xs ++ grouped (fs.map v.canonicalToken) ++ ys).head? := by cases xs <;> rfl
    simp only [List.cons_append, checkFrom, hnext]
    exact told_bind rfl fun _ => ih (some x) (i + 1)

theorem map_canonicalToken_grouped (hv : v.Ranked) (ts : List Token) :
    (grouped ts).map v.canonicalToken = grouped (ts.map v.canonicalToken) := by
  simp [grouped, hv.canonicalToken_of_mem v.leftParen_mem_tokens,
    hv.canonicalToken_of_mem v.rightParen_mem_tokens]

/-- Around a group the check tells the same kind of fault whatever the group is. -/
theorem kind_validate_around (hv : v.Ranked) {es fs : List Token} (he : Closed v es)
    (hf : Closed v fs) (xs ys : List Token) :
    (v.validate (Token.items (xs ++ grouped es ++ ys))).mapError Fault.kind =
      (v.validate (Token.items (xs ++ grouped fs ++ ys))).mapError Fault.kind := by
  have hne (ts : List Token) : xs ++ grouped ts ++ ys ≠ [] := by simp [grouped]
  rw [validate_items, validate_items, if_neg (hne es), if_neg (hne fs)]
  simp only [List.map_append, map_canonicalToken_grouped hv]
  exact kind_checkFrom_around he hf none 0 _ _

end Vocabulary

/-! ## The conversion -/

namespace Conversion

/-- A conversion with more output in front of its own, and more on the stack below its own. -/
def above (s : Conversion) (output below : List Token) : Conversion :=
  ⟨s.output ++ output, s.stack ++ below⟩

/-- A move looks at nothing below a marker, and at no output. -/
theorem Moves.above {t : Token} {s s' : Conversion} (h : Moves t s s') (output : List Token)
    {below : List Token} (hbelow : ∀ m ∈ below.head?, m.tag = .leftParen) :
    Moves t (s.above output below) (s'.above output below) := by
  cases h with
  | operand tag output' stack => exact .operand tag _ _
  | operator tag output' ops rest released kept =>
    have hkept : ∀ o ∈ (rest ++ below).head?, yields t o = false := by
      cases rest with
      | nil => exact fun m hm => by simp [yields, hbelow m hm]
      | cons o rest => exact kept
    simpa [Conversion.above] using
      Moves.operator tag (output' ++ output) ops (rest ++ below) released hkept
  | leftParen tag output' stack => exact .leftParen tag _ _
  | rightParen tag output' ops rest m released marker =>
    simpa [Conversion.above] using
      Moves.rightParen tag (output' ++ output) ops (rest ++ below) m released marker

theorem run_above {ts : List Token} {i : Nat} {s s' : Conversion} (h : run i s ts = .ok s')
    (j : Nat) (output : List Token) {below : List Token}
    (hbelow : ∀ m ∈ below.head?, m.tag = .leftParen) :
    run j (s.above output below) ts = .ok (s'.above output below) := by
  induction ts generalizing i j s with
  | nil =>
    obtain rfl := Except.ok.inj h
    rfl
  | cons t ts ih =>
    obtain ⟨m, hm, hrun⟩ := run_cons_ok h
    rw [run_cons (hm.above output hbelow)]
    exact ih hrun (j + 1)

/-- A run that fails does so with any output in front of its own. -/
theorem run_above_error {ts : List Token} {i : Nat} {s : Conversion} {f : Fault}
    (h : run i s ts = .error f) (j : Nat) (output : List Token) :
    ∃ g, run j (s.above output []) ts = .error g := by
  induction ts generalizing i j s with
  | nil => cases h
  | cons t ts ih =>
    rcases bind_error.mp h with hs | ⟨m, hs, hrun⟩
    · obtain ⟨-, htag, hno⟩ := step_error hs
      have habove : ∀ o ∈ (s.above output []).stack, o.tag ≠ .leftParen := by simpa [above] using hno
      refine ⟨.unmatchedClosing j, bind_error.mpr (.inl ?_)⟩
      simp [step, htag, close?_eq_none _ habove]
    · obtain ⟨g, hg⟩ := ih hrun (j + 1)
      refine ⟨g, ?_⟩
      rw [run_cons ((moves_of_step hs).above output (by simp))]
      exact hg

/-- A group puts out what its expression puts out, and leaves the stack as it was. -/
theorem run_grouped {ts : List Token} {s : Conversion} (h : run 0 .start ts = .ok s)
    (hs : ∀ t ∈ s.stack, t.tag ≠ .leftParen) (i : Nat) (output stack : List Token) :
    run i ⟨output, stack⟩ (grouped ts) =
      .ok ⟨(s.output.reverse ++ s.stack).reverse ++ output, stack⟩ := by
  have hinner : run (i + 1) ⟨output, .leftParen :: stack⟩ ts =
      .ok (s.above output (.leftParen :: stack)) :=
    run_above h (i + 1) output (by simp)
  rw [grouped, run_cons (.leftParen rfl output stack), run_append, hinner]
  have hclose : Moves .rightParen ⟨s.output ++ output, s.stack ++ .leftParen :: stack⟩
      ⟨s.stack.reverse ++ (s.output ++ output), stack⟩ :=
    .rightParen rfl _ _ _ _ hs rfl
  refine (run_cons hclose _ _).trans ?_
  simp [run]

end Conversion

namespace Vocabulary

variable {v : Vocabulary}

/-- A run over a group in the middle of an expression goes on behind it with the postfix form of
the group in the output, as if nothing had been on the stack in between. -/
theorem run_around (hv : v.Ranked) {ts us : List Token} (h : v.toPostfix (Token.items ts) = .ok us)
    (xs ys : List Token) :
    ∃ i, Conversion.run 0 .start ((xs ++ grouped ts ++ ys).map v.canonicalToken) =
      (Conversion.run 0 .start (xs.map v.canonicalToken)).bind fun m =>
        Conversion.run i (.above ⟨[], m.stack⟩ (us.reverse ++ m.output) [])
          (ys.map v.canonicalToken) := by
  obtain ⟨s, hrun, hno, rfl⟩ := exists_run_of_toPostfix h
  refine ⟨0 + xs.length + (grouped ts).length, ?_⟩
  rw [List.map_append, List.map_append, map_canonicalToken_grouped hv, List.append_assoc,
    Conversion.run_append]
  congr 1
  funext m
  rw [Conversion.run_append, Conversion.run_grouped hrun hno]
  simp [Conversion.above, Except.bind, grouped]

/-- Around a group the conversion puts the same tokens in front of its postfix form and behind
it, or it fails whatever the group is. -/
theorem toPostfix_around (hv : v.Ranked) (xs ys : List Token) :
    (∃ front back, ∀ {ts us : List Token}, v.toPostfix (Token.items ts) = .ok us →
      v.toPostfix (Token.items (xs ++ grouped ts ++ ys)) = .ok (front ++ us ++ back)) ∨
    ∀ {ts us : List Token}, v.toPostfix (Token.items ts) = .ok us →
      ∃ f, v.toPostfix (Token.items (xs ++ grouped ts ++ ys)) = .error f := by
  cases hxs : Conversion.run 0 .start (xs.map v.canonicalToken) with
  | error f =>
    refine .inr fun h => ⟨f, ?_⟩
    obtain ⟨i, hrun⟩ := run_around hv h xs ys
    rw [hxs] at hrun
    rw [toPostfix_items, hrun]
    rfl
  | ok m =>
    -- Behind the group everything is decided by the stack that `xs` has left.
    cases hys : Conversion.run 0 ⟨[], m.stack⟩ (ys.map v.canonicalToken) with
    | error f =>
      refine .inr fun {ts us} h => ?_
      obtain ⟨i, hrun⟩ := run_around hv h xs ys
      obtain ⟨g, hg⟩ := Conversion.run_above_error hys i (us.reverse ++ m.output)
      refine ⟨g, ?_⟩
      rw [hxs] at hrun
      rw [toPostfix_items, hrun]
      show ((Conversion.run _ _ _).bind _) = _
      rw [hg]
      rfl
    | ok n =>
      have hrun {ts us : List Token} (h : v.toPostfix (Token.items ts) = .ok us) :
          Conversion.run 0 .start ((xs ++ grouped ts ++ ys).map v.canonicalToken) =
            .ok (n.above (us.reverse ++ m.output) []) := by
        obtain ⟨i, hrun⟩ := run_around hv h xs ys
        rw [hrun, hxs]
        exact Conversion.run_above hys i _ (by simp)
      by_cases hno : ∀ t ∈ n.stack, t.tag ≠ .leftParen
      · refine .inl ⟨m.output.reverse, n.output.reverse ++ n.stack, fun h => ?_⟩
        rw [toPostfix_of_run (hrun h) (by simpa [Conversion.above] using hno)]
        simp [Conversion.above]
      · refine .inr fun h => ⟨.unmatchedOpening, ?_⟩
        obtain ⟨t, ht, htag⟩ : ∃ t ∈ n.stack, t.tag = .leftParen := by simpa using hno
        exact toPostfix_of_marker (hrun h) (List.mem_append_left _ ht) htag

end Vocabulary

end InfixLogic
