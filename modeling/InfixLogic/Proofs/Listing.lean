import InfixLogic.Column
import InfixLogic.Proposal
import InfixLogic.Proofs.LookAlike
import InfixLogic.Proofs.Simulation
import InfixLogic.Proofs.Substitution

/- What the postfix machine accepts.

   The machine takes any tokens, and nothing has checked them before. It accepts the listings: the
   tokens of a tree in postorder, up to what a token is known by (`Expr.Lists`). A run keeps a tree
   for every value on its stack, and what it has read is the listing of these trees, the lowest
   first (`Forest`); a run that leaves one value has therefore read the listing of one tree. No two
   trees have one listing, as the listings read backwards are a prefix code (`Expr.readable`).

   `Stops` says why the machine cannot go on at a token. It looks at the token and at the number of
   values that the tokens before it leave, which is a difference of counts (`Token.height`). `Fails`
   picks the first token of a list at which the machine stops, or says that there is none, and this
   is how runs fail (`run_error_iff`).

   `machine_accepts_listings` puts this together for the standard vocabulary. -/

namespace InfixLogic

open Token (weight weights)

/-! ## Trees and their listings -/

namespace Expr

/-- The operands of a tree are those of a vocabulary. -/
def Over (v : Vocabulary) (e : Expr) : Prop := ∀ t ∈ e.operands, t ∈ v.operands

/-- The tokens are those of a tree over the vocabulary in postorder, up to metadata. -/
structure Lists (v : Vocabulary) (e : Expr) (ts : List Token) : Prop where
  operands : e.Over v
  tokens : ts.map Token.identity = (e.postorder v).map Token.identity

variable {v : Vocabulary}

theorem over_operand {t : Token} : (Expr.operand t).Over v ↔ t ∈ v.operands := by
  simp [Over, operands]

theorem over_not {e : Expr} : e.not.Over v ↔ e.Over v := Iff.rfl

theorem over_and {e f : Expr} : (e.and f).Over v ↔ e.Over v ∧ f.Over v := by
  simp only [Over, operands, List.forall_mem_append]

theorem over_or {e f : Expr} : (e.or f).Over v ↔ e.Over v ∧ f.Over v := by
  simp only [Over, operands, List.forall_mem_append]

theorem mem_tokens_of_mem_postorder {e : Expr} (he : e.Over v) :
    ∀ t ∈ e.postorder v, t ∈ v.tokens := by
  have hop := v.operator_mem_tokens
  induction e with
  | operand t => simpa [postorder] using Vocabulary.operand_mem_tokens (over_operand.mp he)
  | not e ih => simpa [postorder, or_imp, forall_and, hop] using ih he
  | and e f ihe ihf =>
    obtain ⟨he, hf⟩ := over_and.mp he
    simpa [postorder, or_imp, forall_and, hop] using And.intro (ihe he) (ihf hf)
  | or e f ihe ihf =>
    obtain ⟨he, hf⟩ := over_or.mp he
    simpa [postorder, or_imp, forall_and, hop] using And.intro (ihe he) (ihf hf)

end Expr

section PrefixCode
variable {v : Vocabulary}

theorem operator_inj {c d : Connective} : v.operator c = v.operator d ↔ c = d := by
  constructor
  · intro h
    have hname := congrArg (Connective.ofName? ∘ Token.name) h
    simpa using hname
  · exact congrArg v.operator

theorem operand_ne_operator {t : Token} (h : t ∈ v.operands) (c : Connective) :
    t ≠ v.operator c := by
  rintro rfl
  cases Vocabulary.operand_tag h

namespace Expr

/-- Read backwards, the listing of a tree says where it ends and which tree it lists. -/
def Readable (v : Vocabulary) (e : Expr) : Prop :=
  ∀ {f : Expr}, f.Over v → ∀ {xs ys : List Token},
    (e.postorder v).reverse ++ xs = (f.postorder v).reverse ++ ys → e = f ∧ xs = ys

theorem Readable.pair {e e' f f' : Expr} (he : e.Readable v) (he' : e'.Readable v)
    (hf : f.Over v) (hf' : f'.Over v) {xs ys : List Token}
    (h : (e'.postorder v).reverse ++ ((e.postorder v).reverse ++ xs) =
      (f'.postorder v).reverse ++ ((f.postorder v).reverse ++ ys)) :
    e = f ∧ e' = f' ∧ xs = ys := by
  obtain ⟨rfl, hrest⟩ := he' hf' h
  obtain ⟨rfl, hend⟩ := he hf hrest
  exact ⟨rfl, rfl, hend⟩

theorem readable {e : Expr} (he : e.Over v) : e.Readable v := by
  -- The last token tells the shape of the tree, and what is before it is read as its operands.
  intro f hf xs ys h
  induction e generalizing f xs ys with
  | operand t =>
    have ht := over_operand.mp he
    cases f with
    | operand u => simpa [postorder] using h
    | not f | and f f' | or f f' => simp [postorder, operand_ne_operator ht] at h
  | not e ih =>
    cases f with
    | operand u =>
      have hu := over_operand.mp hf
      simp [postorder, (operand_ne_operator hu _).symm] at h
    | not f =>
      have hf : f.Over v := hf
      obtain ⟨rfl, hrest⟩ := ih he hf (by simpa [postorder] using h)
      exact ⟨rfl, hrest⟩
    | and f f' | or f f' => simp [postorder, operator_inj] at h
  | and e e' ih ih' =>
    obtain ⟨hl, hr⟩ := over_and.mp he
    cases f with
    | operand u =>
      have hu := over_operand.mp hf
      simp [postorder, (operand_ne_operator hu _).symm] at h
    | not f | or f f' => simp [postorder, operator_inj] at h
    | and f f' =>
      obtain ⟨hfl, hfr⟩ := over_and.mp hf
      obtain ⟨rfl, rfl, hrest⟩ :=
        Readable.pair (ih hl) (ih' hr) hfl hfr (by simpa [postorder] using h)
      exact ⟨rfl, hrest⟩
  | or e e' ih ih' =>
    obtain ⟨hl, hr⟩ := over_or.mp he
    cases f with
    | operand u =>
      have hu := over_operand.mp hf
      simp [postorder, (operand_ne_operator hu _).symm] at h
    | not f | and f f' => simp [postorder, operator_inj] at h
    | or f f' =>
      obtain ⟨hfl, hfr⟩ := over_or.mp hf
      obtain ⟨rfl, rfl, hrest⟩ :=
        Readable.pair (ih hl) (ih' hr) hfl hfr (by simpa [postorder] using h)
      exact ⟨rfl, hrest⟩

theorem postorder_inj {e f : Expr} (he : e.Over v) (hf : f.Over v)
    (h : e.postorder v = f.postorder v) : e = f := by
  have hreverse : (e.postorder v).reverse ++ [] = (f.postorder v).reverse ++ [] := by rw [h]
  exact (readable he hf hreverse).1

end Expr

end PrefixCode

namespace Vocabulary

variable {v : Vocabulary}

/-- A token known as one of the vocabulary has that one as its canonical token. -/
theorem Ranked.canonicalToken_of_identity (hv : v.Ranked) {t u : Token} (hu : u ∈ v.tokens)
    (h : t.identity = u.identity) : v.canonicalToken t = u := by
  have hdef := (defines_congr h).trans (hv.defines_of_mem hu)
  rw [canonicalToken_congr h hdef, hv.canonicalToken_of_mem hu]

theorem Ranked.map_canonicalToken_of_identity (hv : v.Ranked) {ts us : List Token}
    (hus : ∀ u ∈ us, u ∈ v.tokens) (h : ts.map Token.identity = us.map Token.identity) :
    ts.map v.canonicalToken = us := by
  induction ts generalizing us with
  | nil =>
    cases us with
    | nil => rfl
    | cons u us => cases h
  | cons t ts ih =>
    cases us with
    | nil => cases h
    | cons u us =>
      obtain ⟨hid, hrest⟩ := List.cons.inj h
      obtain ⟨hu, hus⟩ := List.forall_mem_cons.mp hus
      rw [List.map_cons, hv.canonicalToken_of_identity hu hid, ih hus hrest]

end Vocabulary

theorem Expr.lists_iff {v : Vocabulary} (hv : v.Ranked) {e : Expr} {ts : List Token} :
    e.Lists v ts ↔ e.Over v ∧ ts.map v.canonicalToken = e.postorder v := by
  constructor
  · intro h
    have hmem := mem_tokens_of_mem_postorder h.operands
    exact ⟨h.operands, hv.map_canonicalToken_of_identity hmem h.tokens⟩
  · rintro ⟨hover, h⟩
    refine ⟨hover, ?_⟩
    rw [← h, List.map_map]
    exact List.map_congr_left fun t _ => (v.canonicalToken_identity t).symm

theorem Expr.Lists.unique {v : Vocabulary} (hv : v.Ranked) {e f : Expr} {ts : List Token}
    (he : e.Lists v ts) (hf : f.Lists v ts) : e = f := by
  obtain ⟨hover, h⟩ := (lists_iff hv).mp he
  obtain ⟨hover', h'⟩ := (lists_iff hv).mp hf
  exact postorder_inj hover hover' (h.symm.trans h')

/-! ## A tree for every value -/

theorem Interpretation.operand_truth (env : Text → Bool) (t : Token) :
    Interpretation.truth.operand env t = (Expr.operand t).eval env := by
  rw [operand, Expr.eval]
  cases t.value <;> rfl

/-- Trees that stand for the values of a stack, and whose listings, the lowest first, are what has
been read. -/
structure Forest (v : Vocabulary) (env : Text → Bool) (stack : List Bool) (read : List Token)
    (trees : List Expr) : Prop where
  operands : ∀ e ∈ trees, e.Over v
  values : stack = trees.map (Expr.eval env)
  listings : read = trees.reverse.flatMap (Expr.postorder v)

namespace Forest

variable {v : Vocabulary} {env : Text → Bool} {stack stack' : List Bool} {read : List Token}
  {trees : List Expr}

theorem nil (v : Vocabulary) (env : Text → Bool) : Forest v env [] [] [] := ⟨by simp, rfl, rfl⟩

/-- A connective makes one tree of those that stand for its values. -/
theorem apply (h : Forest v env stack read trees) {i : Nat} {c : Connective}
    (hs : Interpretation.truth.apply i c stack = .ok stack') :
    ∃ trees', Forest v env stack' (read ++ [v.operator c]) trees' := by
  obtain ⟨hover, rfl, rfl⟩ := h
  match c, trees, hs with
  | .not, e :: trees, hs =>
    obtain rfl := Except.ok.inj hs
    exact ⟨.not e :: trees, by simpa [Expr.over_not] using hover, rfl, by simp [Expr.postorder]⟩
  | .and, f :: e :: trees, hs =>
    obtain rfl := Except.ok.inj hs
    refine ⟨.and e f :: trees, ?_, rfl, by simp [Expr.postorder]⟩
    simp only [List.forall_mem_cons, Expr.over_and] at hover ⊢
    exact ⟨⟨hover.2.1, hover.1⟩, hover.2.2⟩
  | .or, f :: e :: trees, hs =>
    obtain rfl := Except.ok.inj hs
    refine ⟨.or e f :: trees, ?_, rfl, by simp [Expr.postorder]⟩
    simp only [List.forall_mem_cons, Expr.over_or] at hover ⊢
    exact ⟨⟨hover.2.1, hover.1⟩, hover.2.2⟩

theorem step (hv : v.Ranked) (h : Forest v env stack read trees) {i : Nat} {t : Token}
    (hs : v.step .truth env i (v.canonicalToken t) stack = .ok stack') :
    ∃ trees', Forest v env stack' (read ++ [v.canonicalToken t]) trees' := by
  cases t.role v with
  | value htag hdef =>
    rw [Vocabulary.step_value htag hdef] at hs
    obtain rfl := Except.ok.inj hs
    have hmem := Vocabulary.mem_operands_of_tag (Vocabulary.canonicalToken_mem hdef)
      ((v.canonicalToken_tag t).trans htag)
    refine ⟨.operand (v.canonicalToken t) :: trees, ?_, ?_, ?_⟩
    · exact List.forall_mem_cons.mpr ⟨Expr.over_operand.mpr hmem, h.operands⟩
    · rw [List.map_cons, h.values, Interpretation.operand_truth]
    · simp [h.listings, Expr.postorder]
  | connective c hid =>
    rw [Vocabulary.step_connective hid] at hs
    rw [hv.canonicalToken_of_identity (v.operator_mem_tokens c) hid]
    exact h.apply hs
  | foreignOperand htag hdef =>
    rw [Vocabulary.step_foreignOperand htag hdef] at hs
    cases hs
  | other htag hid =>
    rw [Vocabulary.step_other htag hid] at hs
    cases hs

theorem runFrom (hv : v.Ranked) (h : Forest v env stack read trees) {i : Nat} {ts : List Token}
    (hrun : v.runFrom .truth env i stack (Token.items ts) = .ok stack') :
    ∃ trees', Forest v env stack' (read ++ ts.map v.canonicalToken) trees' := by
  induction ts generalizing i stack read trees with
  | nil =>
    obtain rfl := Except.ok.inj hrun
    exact ⟨trees, by simpa using h⟩
  | cons t ts ih =>
    obtain ⟨m, hs, hrest⟩ := bind_ok.mp hrun
    obtain ⟨trees', h'⟩ := h.step hv hs
    simpa using ih h' hrest

end Forest

namespace Vocabulary

variable {v : Vocabulary} {env : Text → Bool} {ts : List Token}

/-- A run has a value if it has read the listing of a tree, and the value is that of the tree. -/
theorem run_ok_iff_lists (hv : v.Ranked) {b : Bool} :
    v.run .truth env (Token.items ts) = .ok b ↔ ∃ e : Expr, e.Lists v ts ∧ e.eval env = b := by
  constructor
  · intro h
    obtain ⟨trees, hover, hvalues, hread⟩ := (Forest.nil v env).runFrom hv (run_ok_iff.mp h)
    match trees with
    | [e] =>
      refine ⟨e, (Expr.lists_iff hv).mpr ⟨by simpa using hover, by simpa using hread⟩, ?_⟩
      simpa using hvalues.symm
  · rintro ⟨e, h, rfl⟩
    obtain ⟨hover, hcanonical⟩ := (Expr.lists_iff hv).mp h
    rw [← v.seesCanonical_run _ _ ts, hcanonical]
    exact run_postorder hv env hover

end Vocabulary

/-! ## Where a run stops -/

/-- Whether a token is a connective that takes two values. -/
def Token.isJoin (t : Token) : Bool :=
  t.isOperator && (Connective.ofName? t.name).any fun c => c.arity == 2

/-- The number of values that tokens leave: one for each operand, less one for each connective that
takes two. -/
def Token.height (ts : List Token) : Int := (ts.countP (·.isOperand) : Int) - ts.countP (·.isJoin)

theorem weight_eq_height (t : Token) : t.weight = Token.height [t] := by
  cases htag : t.tag with
  | operand | leftParen | rightParen =>
    simp [weight, Token.height, Token.isJoin, Token.isOperand, Token.isOperator, htag]
  | operator =>
    cases hname : Connective.ofName? t.name with
    | none => simp [weight, Token.height, Token.isJoin, Token.isOperand, htag, hname]
    | some c =>
      cases c <;>
        simp [weight, Token.height, Token.isJoin, Token.isOperand, Token.isOperator, htag, hname,
          Connective.arity]

/-- The weight of a list of tokens is the number of values that they leave. -/
theorem weights_eq_height (ts : List Token) : weights ts = Token.height ts := by
  induction ts with
  | nil => rfl
  | cons t ts ih =>
    have ht := weight_eq_height t
    simp only [Token.height, List.countP_cons, List.countP_nil] at ih ht ⊢
    rw [weights_cons]
    omega

/-- Why the machine cannot go on at a token behind others, and what it tells. -/
inductive Stops (v : Vocabulary) (before : List Token) (t : Token) : Fault → Prop where
  /-- An operand that is not in the vocabulary is an unknown token. -/
  | unknownOperand (htag : t.tag = .operand) (hdef : v.defines t = false) :
      Stops v before t (.unknownOperand t.name before.length)
  /-- A parenthesis and an operator that is named after no connective are unknown operators. -/
  | unknownOperator (htag : t.tag ≠ .operand)
      (hid : ∀ c : Connective, t.identity ≠ (.operator, c.name)) :
      Stops v before t (.unknownOperator (v.canonicalToken t) before.length)
  /-- Behind too few values for a connective the expression is incomplete. -/
  | starved (c : Connective) (hid : t.identity = (.operator, c.name))
      (hfew : Token.height before < c.arity) : Stops v before t (.starved c before.length)

/-- The machine cannot go on at the token of an index. -/
def StopsAt (v : Vocabulary) (ts : List Token) (i : Nat) (f : Fault) : Prop :=
  ∃ t, ts[i]? = some t ∧ Stops v (ts.take i) t f

theorem StopsAt.lt_length {v : Vocabulary} {ts : List Token} {i : Nat} {f : Fault}
    (h : StopsAt v ts i f) : i < ts.length := by
  obtain ⟨t, ht, -⟩ := h
  exact (List.getElem?_eq_some_iff.mp ht).1

/-- Within a part from the beginning the machine stops where it does in the whole list. -/
theorem stopsAt_append {v : Vocabulary} {before : List Token} {i : Nat} {f : Fault}
    (hi : i < before.length) (after : List Token) :
    StopsAt v (before ++ after) i f ↔ StopsAt v before i f := by
  rw [StopsAt, StopsAt, List.getElem?_append_left hi, List.take_append_of_le_length hi.le]

/-- How a run fails: at the first index where the machine cannot go on, or at the end if there is
none and the number of values left is not one. -/
inductive Fails (v : Vocabulary) (ts : List Token) : Fault → Prop where
  | stopped {i : Nat} {f : Fault} (hstop : StopsAt v ts i f)
      (hfirst : ∀ j < i, ∀ g, ¬ StopsAt v ts j g) : Fails v ts f
  | leftover {n : Nat} (hnone : ∀ i g, ¬ StopsAt v ts i g) (hn : Token.height ts = n)
      (hone : n ≠ 1) : Fails v ts (.leftover n)

namespace Vocabulary

variable {v : Vocabulary} {env : Text → Bool} {ts before : List Token} {t : Token}
  {stack : List Bool} {f : Fault}

/-- A connective stops the machine if it finds fewer values than it takes. -/
theorem apply_error_iff {i : Nat} {c : Connective} {stack : List Bool} {f : Fault} :
    Interpretation.truth.apply i c stack = .error f ↔
      (stack.length : Int) < c.arity ∧ f = .starved c i := by
  constructor
  · exact fun h => (starved_of_apply h).symm
  · rintro ⟨hfew, rfl⟩
    match c, stack, hfew with
    | .not, [], _ | .and, [], _ | .and, [_], _ | .or, [], _ | .or, [_], _ => rfl
    | .not, _ :: _, hfew | .and, _ :: _ :: _, hfew | .or, _ :: _ :: _, hfew =>
      simp only [List.length_cons, Connective.arity] at hfew
      omega

theorem step_error_iff (env : Text → Bool) (hheight : (stack.length : Int) = Token.height before) :
    v.step .truth env before.length (v.canonicalToken t) stack = .error f ↔
      Stops v before t f := by
  constructor
  · intro h
    cases t.role v with
    | value htag hdef => cases (step_value htag hdef _ stack).symm.trans h
    | connective c hid =>
      obtain ⟨hfew, rfl⟩ := apply_error_iff.mp ((step_connective hid _ stack).symm.trans h)
      exact .starved c hid (hheight ▸ hfew)
    | foreignOperand htag hdef =>
      obtain rfl := Except.error.inj ((step_foreignOperand htag hdef _ stack).symm.trans h)
      exact .unknownOperand htag hdef
    | other htag hid =>
      obtain rfl := Except.error.inj ((step_other htag hid _ stack).symm.trans h)
      exact .unknownOperator htag hid
  · intro h
    cases h with
    | unknownOperand htag hdef => exact step_foreignOperand htag hdef _ stack
    | unknownOperator htag hid => exact step_other htag hid _ stack
    | starved c hid hfew =>
      exact (step_connective hid _ stack).trans (apply_error_iff.mpr ⟨hheight ▸ hfew, rfl⟩)

/-- The height of the stack after a run from the beginning. -/
theorem length_of_runFrom (h : v.runFrom .truth env 0 [] (Token.items ts) = .ok stack) :
    (stack.length : Int) = Token.height ts := by
  rw [length_runFrom h, weights_eq_height]
  simp

/-- A run that fails goes well up to some token and fails there. -/
theorem runFrom_error {i : Nat} (h : v.runFrom .truth env i stack (Token.items ts) = .error f) :
    ∃ before t after stack', ts = before ++ t :: after ∧
      v.runFrom .truth env i stack (Token.items before) = .ok stack' ∧
      v.step .truth env (i + before.length) (v.canonicalToken t) stack' = .error f := by
  induction ts generalizing i stack with
  | nil => cases h
  | cons t ts ih =>
    rcases bind_error.mp h with hs | ⟨m, hs, hrest⟩
    · exact ⟨[], t, ts, stack, rfl, rfl, hs⟩
    · obtain ⟨before, u, after, stack', rfl, hrun, hstep⟩ := ih hrest
      refine ⟨t :: before, u, after, stack', rfl, bind_ok.mpr ⟨m, hs, hrun⟩, ?_⟩
      rwa [List.length_cons, Nat.add_comm before.length, ← Nat.add_assoc]

/-- Where a run goes well the machine stops nowhere. -/
theorem not_stopsAt_of_runFrom (h : v.runFrom .truth env 0 [] (Token.items ts) = .ok stack)
    (i : Nat) (f : Fault) : ¬ StopsAt v ts i f := by
  rintro ⟨t, ht, hstops⟩
  obtain ⟨hi, rfl⟩ := List.getElem?_eq_some_iff.mp ht
  rw [← List.take_append_drop i ts, List.drop_eq_getElem_cons hi, runFrom_append] at h
  obtain ⟨stack', hbefore, hrest⟩ := bind_ok.mp h
  obtain ⟨m, hs, -⟩ := bind_ok.mp hrest
  have hstep := (step_error_iff env (length_of_runFrom hbefore)).mpr hstops
  rw [Nat.zero_add] at hs
  cases hstep.symm.trans hs

/-- A run goes well if the machine stops nowhere. -/
theorem exists_runFrom (env : Text → Bool) (h : ∀ i f, ¬ StopsAt v ts i f) :
    ∃ stack, v.runFrom .truth env 0 [] (Token.items ts) = .ok stack := by
  cases hrun : v.runFrom .truth env 0 [] (Token.items ts) with
  | ok stack => exact ⟨stack, rfl⟩
  | error f =>
    obtain ⟨before, t, after, stack, rfl, hbefore, hstep⟩ := runFrom_error hrun
    rw [Nat.zero_add, step_error_iff env (length_of_runFrom hbefore)] at hstep
    exact absurd ⟨t, by simp, by simpa using hstep⟩ (h before.length f)

theorem fails_of_run (h : v.run .truth env (Token.items ts) = .error f) : Fails v ts f := by
  rcases bind_error.mp h with hrun | ⟨stack, hrun, hleft⟩
  · obtain ⟨before, t, after, stack, rfl, hbefore, hstep⟩ := runFrom_error hrun
    rw [Nat.zero_add, step_error_iff env (length_of_runFrom hbefore)] at hstep
    refine .stopped (i := before.length) ⟨t, by simp, by simpa using hstep⟩ fun j hj g => ?_
    rw [stopsAt_append hj]
    exact not_stopsAt_of_runFrom hbefore j g
  · have hnone := not_stopsAt_of_runFrom hrun
    have hlength := (length_of_runFrom hrun).symm
    match stack, hleft with
    | [], hleft | _ :: _ :: _, hleft =>
      obtain rfl := Except.error.inj hleft
      exact .leftover hnone hlength (by simp)

theorem run_of_fails (h : Fails v ts f) : v.run .truth env (Token.items ts) = .error f := by
  refine bind_error.mpr ?_
  cases h with
  | @stopped i f hstop hfirst =>
    obtain ⟨t, ht, hstops⟩ := hstop
    obtain ⟨hi, rfl⟩ := List.getElem?_eq_some_iff.mp ht
    obtain ⟨stack, hbefore⟩ : ∃ stack,
        v.runFrom .truth env 0 [] (Token.items (ts.take i)) = .ok stack := by
      refine exists_runFrom env fun j g hj => ?_
      have hji : j < i := by
        have := hj.lt_length
        rw [List.length_take] at this
        omega
      have hwhole := (stopsAt_append hj.lt_length (ts.drop i)).mpr hj
      rw [List.take_append_drop] at hwhole
      exact hfirst j hji g hwhole
    have hstep := (step_error_iff env (length_of_runFrom hbefore)).mpr hstops
    left
    rw [← List.take_append_drop i ts, List.drop_eq_getElem_cons hi, runFrom_append, hbefore]
    rw [← Nat.zero_add (ts.take i).length] at hstep
    exact bind_error.mpr (.inr ⟨stack, rfl, bind_error.mpr (.inl hstep)⟩)
  | leftover hnone hn hone =>
    obtain ⟨stack, hrun⟩ := exists_runFrom env hnone
    refine .inr ⟨stack, hrun, ?_⟩
    have hlength := (length_of_runFrom hrun).trans hn
    match stack with
    | [] | _ :: _ :: _ =>
      obtain rfl := Int.ofNat.inj hlength
      rfl
    | [_] => exact absurd (Int.ofNat.inj hlength).symm hone

/-- Runs fail at the first token where the machine cannot go on, or for want of one value at the
end. -/
theorem run_error_iff : v.run .truth env (Token.items ts) = .error f ↔ Fails v ts f :=
  ⟨fails_of_run, run_of_fails⟩

end Vocabulary

/-! ## Scalars as columns -/

/-- The columns of an environment of single values. -/
def Environment.columns (env : Environment) : List (Text × Column) :=
  env.map fun p => (p.1, .constant p.2.truthy)

theorem lookup_columns (env : Environment) (name : Text) :
    Column.lookup env.columns name = .constant (env.truth name) := by
  rw [Column.lookup, Environment.columns, Environment.truth,
    Proposal.lookup_map fun w : Value => Column.constant w.truthy]
  cases List.lookup name env <;> rfl

/-- Single values combine as truth values do. -/
theorem constant_simulates : Simulates .truth .column fun b c => c = Column.constant b where
  constant _ := rfl
  negate h := congrArg Column.negate h
  conjoin h h' := h ▸ h' ▸ .ok rfl
  disjoin h h' := h ▸ h' ▸ .ok rfl

theorem run_columns (v : Vocabulary) (env : Environment) (ts : List Token) :
    v.run .column (Column.lookup env.columns) (Token.items ts) =
      ((v.run .truth env.truth (Token.items ts)).map Column.constant).mapError .fault := by
  have halike : Alike _ _ _ (v.run .truth env.truth (Token.items ts)) (v.run .column _ _) :=
    constant_simulates.run fun t _ _ => lookup_columns env t.name
  cases h : v.run .truth env.truth (Token.items ts) with
  | error f => exact halike.of_error h
  | ok b =>
    obtain ⟨c, hc, rfl⟩ := halike.of_ok h
    exact hc

/-! ## The standard vocabulary -/

open Vocabulary (standard)

/-- The machine accepts the listings of trees and nothing else. A sequence lists one tree at most,
and its value is that of the tree where names that are not bound are false. Any other sequence fails
at the first token where the machine cannot go on, or behind the last one if there is none. Single
values that are run as columns give the same. -/
theorem machine_accepts_listings (ts : List Token) (env : Environment) :
    (∀ b, standard.run .truth env.truth (Token.items ts) = .ok b ↔
      ∃ e : Expr, e.Lists standard ts ∧ e.eval env.truth = b) ∧
    (∀ e f : Expr, e.Lists standard ts → f.Lists standard ts → e = f) ∧
    (∀ f, standard.run .truth env.truth (Token.items ts) = .error f ↔ Fails standard ts f) ∧
    standard.run .column (Column.lookup env.columns) (Token.items ts) =
      ((standard.run .truth env.truth (Token.items ts)).map Column.constant).mapError .fault := by
  have hv := Vocabulary.standard_conventional.toRanked
  exact ⟨fun b => Vocabulary.run_ok_iff_lists hv, fun e f he hf => he.unique hv hf,
    fun f => Vocabulary.run_error_iff, run_columns standard env ts⟩

/-- The cases of `A !` with a NOT that is forged to take two values, of `A && B B`, which stops at
the AND though values come behind it, of `A B !`, which leaves two values, and of `A ( X`, where the
parenthesis comes first. -/
theorem machine_accepts_listings_early :
    (∃ e : Expr, e.Lists standard [.variable "A", ⟨.operator, "NOT", none, none, 2, 0, false⟩] ∧
      e.eval (Environment.truth [("A", .int 2)]) = false) ∧
    Fails standard [.variable "A", standard.operator .and, .variable "B", .variable "B"]
      (.starved .and 1) ∧
    Fails standard [.variable "A", .variable "B", standard.operator .not] (.leftover 2) ∧
    Fails standard [.variable "A", .leftParen, .variable "X"] (.unknownOperator .leftParen 1) :=
  ⟨((machine_accepts_listings _ [("A", .int 2)]).1 false).mp (by decide),
    ((machine_accepts_listings _ []).2.2.1 _).mp (by decide),
    ((machine_accepts_listings _ []).2.2.1 _).mp (by decide),
    ((machine_accepts_listings _ []).2.2.1 _).mp (by decide)⟩

end InfixLogic
