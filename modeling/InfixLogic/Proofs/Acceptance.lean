import InfixLogic.Proposal
import InfixLogic.Proofs.Pairing
import InfixLogic.Proofs.Postorder

/- What the check of settings promises.

   Accepted settings rank NOT above AND above OR, so their vocabulary is ranked
   (`Settings.ranked_of_check`). Whatever the ranks are and whichever of AND and OR group to the
   right, derived expressions have the value of their trees as long as no NOT stands right behind a
   NOT (`Derives.evaluate_of_waits`).

   The check does not ask that NOT groups to the right. Where it does not, the first of two NOTs in
   a row goes out in front of its operand. At the beginning of an expression it finds no value there
   (`Derives.starved_of_left`), and behind a binary connective it negates the left side in place of
   the right one (`ChainLevel.evaluate_of_left`). So the vocabulary is right exactly if NOT groups
   to the right (`accepted_correct_iff`). -/

namespace InfixLogic

/-- The standard settings with other precedences and other connectives that group to the right. -/
def Settings.withConnectives (precedence : List (Text × Int)) (rightAssociative : List Text) :
    Settings :=
  { standard with precedence := precedence, rightAssociative := rightAssociative }

/-- Every derived expression has the value of its tree in every environment. -/
def Vocabulary.Correct (v : Vocabulary) : Prop :=
  ∀ ts e, Derives v .disjunction ts e → ∀ env : Environment,
    v.evaluate (Token.items ts) env.truth = .ok (e.eval env.truth)

/-- What two NOTs in a row are taken for where NOT does not group to the right. -/
structure Vocabulary.Misreads (v : Vocabulary) : Prop where
  /-- At the beginning of an expression the first one finds no value. -/
  leading : ∀ ts e, Derives v .disjunction (v.operator .not :: v.operator .not :: ts) e →
    ∀ env : Environment,
      v.evaluate (Token.items (v.operator .not :: v.operator .not :: ts)) env.truth =
        .error (.starved .not 0)
  /-- Behind AND it negates the left side. -/
  conjoined : ∀ ts us e f, Derives v .atom ts e → Derives v .atom us f → NegationsWait v ts →
    NegationsWait v us → ∀ env : Environment,
      v.evaluate (Token.items
          (ts ++ v.operator .and :: v.operator .not :: v.operator .not :: us)) env.truth =
        .ok (!e.eval env.truth && !f.eval env.truth)
  /-- Behind OR likewise. -/
  disjoined : ∀ ts us e f, Derives v .atom ts e → Derives v .atom us f → NegationsWait v ts →
    NegationsWait v us → ∀ env : Environment,
      v.evaluate (Token.items
          (ts ++ v.operator .or :: v.operator .not :: v.operator .not :: us)) env.truth =
        .ok (!e.eval env.truth || !f.eval env.truth)

/-! ## Accepted settings -/

theorem Settings.order_of_check {s : Settings} (h : s.proposal.check = .ok ()) :
    s.rank .or < s.rank .and ∧ s.rank .and < s.rank .not := by
  rw [check_proposal] at h
  have hnone : s.violation? = none := by
    cases hv : s.violation? with
    | none => rfl
    | some f => rw [hv] at h; cases h
  rw [violation?, Option.map_eq_none_iff, List.find?_eq_none] at hnone
  have horder := hnone _ (List.mem_cons_of_mem _ List.mem_cons_self)
  simpa [and_comm] using horder

/-- The vocabulary of accepted settings is ranked if its tokens have names of their own. -/
theorem Settings.ranked_of_check {s : Settings} (h : s.proposal.check = .ok ())
    (hnames : ((Vocabulary.ofSettings s).tokens.map (·.name)).Nodup) :
    (Vocabulary.ofSettings s).Ranked where
  names := hnames
  or_lt_and := (order_of_check h).1
  and_lt_not := (order_of_check h).2

/-! ## A NOT that groups to the left -/

section Left
variable {v : Vocabulary} {s part : Stratum} {join : Expr → Expr → Expr} {ts us : List Token}
  {e f : Expr}

/-- The first of two NOTs on top of what does not give way to NOT goes out at once. -/
theorem run_negations (hleft : v.groupsRight .not = false) {stack : List Token}
    (hstack : Waits v .negation stack) (i : Nat) (output : List Token) :
    Conversion.run i ⟨output, stack⟩ (v.operator .not :: v.operator .not :: ts) =
      Conversion.run (i + 2) ⟨v.operator .not :: output, v.operator .not :: stack⟩ ts := by
  have hyields : ∀ o ∈ [v.operator .not], Conversion.yields (v.operator .not) o = true := by
    simp [yields_of_left hleft]
  have hfirst := Conversion.Moves.operator (t := v.operator .not) rfl output [] stack (by simp)
    hstack
  have hsecond := Conversion.Moves.operator rfl output [v.operator .not] stack hyields hstack
  exact (Conversion.run_cons hfirst i _).trans (Conversion.run_cons hsecond (i + 1) ts)

theorem Derives.balanced (h : Derives v s ts e) : Balanced ts := by
  induction h with
  | operand mem => exact .neutral (by simp [Token.isGrouper, Vocabulary.operand_tag mem])
  | group _ ih => exact ih.enclosed rfl rfl
  | atom _ ih | negation _ ih | conjunction _ ih => exact ih
  | not _ ih => exact (Balanced.neutral rfl).append ih
  | and _ _ ihl ihr | or _ _ ihl ihr => exact ihl.append ((Balanced.neutral rfl).append ihr)

/-- The machine stops at a NOT that comes first. -/
theorem Vocabulary.run_operator_not (hv : v.Ranked) (env : Text → Bool) (us : List Token) :
    v.run .truth env (Token.items (v.operator .not :: us)) = .error (.starved .not 0) := by
  have hstep : v.runFrom .truth env 0 [] (Token.items (v.operator .not :: us)) =
      .error (.starved .not 0) :=
    (runFrom_cons_mem hv .truth env 0 [] (v.operator_mem_tokens .not) _).trans
      (by rw [step_operator_truth]; rfl)
  rw [run, hstep]
  rfl

/-- Where NOT groups to the left, an expression that begins with two NOTs has no value. -/
theorem Derives.starved_of_left (hv : v.Ranked) (hleft : v.groupsRight .not = false)
    (h : Derives v s (v.operator .not :: v.operator .not :: ts) e) (env : Text → Bool) :
    v.evaluate (Token.items (v.operator .not :: v.operator .not :: ts)) env =
      .error (.starved .not 0) := by
  obtain ⟨us, hus⟩ := (v.toPostfix_ok_iff_balanced _).mpr h.balanced
  obtain ⟨m, hrun, -, hpost⟩ := Vocabulary.exists_run_of_toPostfix hus
  rw [hv.map_canonicalToken h.mem_tokens, Conversion.start, run_negations hleft (.nil v _)] at hrun
  -- What has gone out first stays first.
  obtain ⟨later, hlater⟩ := Conversion.run_output_suffix hrun
  have hfirst : us = v.operator .not :: (later.reverse ++ m.stack) := by
    simp [hpost, ← hlater]
  rw [h.evaluate_of_toPostfix hv hus, hfirst]
  exact Vocabulary.run_operator_not hv env _

/-- Where NOT groups to the left, the first of two NOTs behind a binary connective goes to the left
side. -/
theorem ChainLevel.toPostfix_of_left (hc : ChainLevel v s part join) (hv : v.Ranked)
    (hleft : v.groupsRight .not = false) (hlt : v.rank s.connective < v.rank .not)
    (hmem : ∀ t ∈ ts ++ v.operator s.connective :: v.operator .not :: v.operator .not :: us,
      t ∈ v.tokens)
    (he : Delivers v ts e) (hf : Delivers v us f) :
    v.toPostfix (Token.items
        (ts ++ v.operator s.connective :: v.operator .not :: v.operator .not :: us)) =
      .ok ((join (.not e) (.not f)).postorder v) := by
  have hwaits : Waits v .negation [v.operator s.connective] := .operator (not_yields_of_lt hlt) []
  have hconnective := Conversion.Moves.operator (t := v.operator s.connective) rfl
    ((e.postorder v).reverse ++ []) [] [] (by simp) (by simp)
  have hrun : Conversion.run 0 .start
      ((ts ++ v.operator s.connective :: v.operator .not :: v.operator .not :: us).map
        v.canonicalToken) =
      .ok ⟨(f.postorder v).reverse ++ v.operator .not :: ((e.postorder v).reverse ++ []),
        [v.operator .not, v.operator s.connective]⟩ := by
    rw [hv.map_canonicalToken hmem, Conversion.run_append, Conversion.start, he]
    refine (Conversion.run_cons hconnective _ _).trans ?_
    exact (run_negations hleft hwaits _ _).trans (hf _ _ _)
  rw [Vocabulary.toPostfix_of_run hrun (by simp), hc.postorder]
  simp [Expr.postorder]

/-- So the value of such an expression is that of the negated sides joined. -/
theorem ChainLevel.evaluate_of_left (hc : ChainLevel v s part join) (hv : v.Ranked)
    (hleft : v.groupsRight .not = false) (hlt : v.rank s.connective < v.rank .not)
    (h : Derives v s (ts ++ v.operator s.connective :: v.operator .not :: v.operator .not :: us)
      (join e (.not (.not f))))
    (he : Derives v .atom ts e) (hf : Derives v .atom us f) (hts : NegationsWait v ts)
    (hus : NegationsWait v us) (env : Text → Bool) :
    v.evaluate (Token.items
        (ts ++ v.operator s.connective :: v.operator .not :: v.operator .not :: us)) env =
      .ok ((join (.not e) (.not f)).eval env) := by
  obtain ⟨e', hre, hde⟩ := he.converts hv hts
  obtain ⟨f', hrf, hdf⟩ := hf.converts hv hus
  have hpost := hc.toPostfix_of_left hv hleft hlt h.mem_tokens hde hdf
  have hregroups := hc.congr (.not hre) (.not hrf)
  have hoperands : ∀ t ∈ (join (.not e') (.not f')).operands, t ∈ v.operands := by
    rw [hregroups.operands_eq, hc.operands]
    exact List.forall_mem_append.mpr ⟨he.mem_operands, hf.mem_operands⟩
  rw [h.evaluate_of_toPostfix hv hpost, ← hregroups.eval_eq env]
  exact v.run_postorder hv env hoperands

theorem Vocabulary.Ranked.misreads (hv : v.Ranked) (hleft : v.groupsRight .not = false) :
    v.Misreads where
  leading := fun _ _ h env => h.starved_of_left hv hleft env.truth
  conjoined := by
    intro ts us e f he hf hts hus env
    have h := Derives.and he.atom.negation hf.atom.not.not
    exact (chainLevel_and hv).evaluate_of_left hv hleft hv.and_lt_not h he hf hts hus env.truth
  disjoined := by
    intro ts us e f he hf hts hus env
    have h := Derives.or he.atom.negation.conjunction hf.atom.not.not.negation
    have hlt := Int.lt_trans hv.or_lt_and hv.and_lt_not
    exact (chainLevel_or hv).evaluate_of_left hv hleft hlt h he hf hts hus env.truth

end Left

/-- The vocabulary of accepted settings with other precedences and groupings has the value of the
tree for every derived expression in which no NOT stands right behind a NOT, or for every one if NOT
groups to the right; the postfix form is the postorder of a regrouping of the tree. If NOT does not
group to the right, an expression that begins with two NOTs has no value, and behind AND or OR the
first of two NOTs negates the left side. So it is right for all derived expressions exactly if NOT
groups to the right. -/
theorem accepted_correct_iff {precedence : List (Text × Int)} {rightAssociative : List Text}
    (h : (Settings.withConnectives precedence rightAssociative).proposal.check = .ok ()) :
    let v := Vocabulary.ofSettings (.withConnectives precedence rightAssociative)
    (v.Correct ↔ Connective.not.name ∈ rightAssociative) ∧
      (Connective.not.name ∉ rightAssociative → v.Misreads) ∧
      ∀ ts e, Derives v .disjunction ts e → NegationsWait v ts →
        v.validate (Token.items ts) = .ok () ∧
        (∃ e', Regroups v e e' ∧ v.toPostfix (Token.items ts) = .ok (e'.postorder v)) ∧
        ∀ env : Environment, v.evaluate (Token.items ts) env.truth = .ok (e.eval env.truth) := by
  intro v
  have hv : v.Ranked := Settings.ranked_of_check h Vocabulary.standard_conventional.names
  have hright : v.groupsRight .not = true ↔ Connective.not.name ∈ rightAssociative :=
    List.contains_iff_mem
  have hmisreads : Connective.not.name ∉ rightAssociative → v.Misreads := fun hno =>
    hv.misreads (Bool.eq_false_iff.mpr (mt hright.mp hno))
  refine ⟨⟨fun hcorrect => ?_, fun hin ts e he env => ?_⟩, hmisreads, fun ts e he hn => ?_⟩
  · by_contra hno
    -- `! ! A` has a value if the vocabulary is right, and none if NOT groups to the left.
    have hvariable : Token.variable "A" ∈ v.operands := by
      simp [v, Vocabulary.operands, Vocabulary.ofSettings, Settings.withConnectives,
        Settings.standard]
    have hderives := (Derives.operand hvariable).atom.not.not.negation.conjunction
    cases (hcorrect _ _ hderives []).symm.trans ((hmisreads hno).leading _ _ hderives [])
  · exact he.evaluate_of_waits hv (fun _ => hright.mpr hin) env.truth
  · exact ⟨he.validate hv, he.toPostfix_regroups hv hn,
      fun env => he.evaluate_of_waits hv hn env.truth⟩

/-- The cases of ranks below zero with OR to the right, and of the standard ranks with nothing to
the right, where `A && ! ! B` is false although `A` and `B` are true. -/
theorem accepted_correct_iff_nothing_right :
    (Vocabulary.ofSettings
        (.withConnectives [("NOT", 7), ("OR", -5), ("AND", 0)] ["OR", "NOT"])).Correct ∧
      (Settings.withConnectives Settings.standard.precedence []).proposal.check = .ok () ∧
      ¬ (Vocabulary.ofSettings (.withConnectives Settings.standard.precedence [])).Correct ∧
      (Vocabulary.ofSettings (.withConnectives Settings.standard.precedence [])).evaluate
          (Token.items [.variable "A", Vocabulary.standard.operator .and,
            Vocabulary.standard.operator .not, Vocabulary.standard.operator .not, .variable "B"])
          (Environment.ofBools [("A", true), ("B", true)]).truth = .ok false := by
  have hright : (Settings.withConnectives [("NOT", 7), ("OR", -5), ("AND", 0)]
      ["OR", "NOT"]).proposal.check = .ok () := by decide
  have hnothing : (Settings.withConnectives Settings.standard.precedence []).proposal.check =
      .ok () := by decide
  refine ⟨(accepted_correct_iff hright).1.mpr (by decide), hnothing, ?_, by decide⟩
  exact mt (accepted_correct_iff hnothing).1.mp (by decide)

end InfixLogic
