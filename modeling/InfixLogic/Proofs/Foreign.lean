import InfixLogic.Proofs.Machine
import InfixLogic.Proofs.Placing
import InfixLogic.Proofs.Recency

/- Operators of foreign names.

   An operator that is named after no connective is in no vocabulary, so it keeps its own arity,
   precedence and grouping. The scan and the conversion look at these, but tokens are compared by
   tag and name, and so are keys: an entry need not be the outcome of every request of its key.

   It never goes as far as a wrong value. The machine knows connectives only, so an expression with
   a foreign operator has no value whatever it is like (`namesConnectives_of_evaluate`). Requests of
   one key therefore have one outcome, or both fail (`agree_of_same`), and as every entry is the
   outcome of some request of its key (`Cache.Recorded`), the same holds of a request and what
   answers it.

   The second case is there for every foreign name. Alone, an operator of arity two dangles and one
   of another arity is unknown, but the key is one, and a request of the key of the last one is
   answered the same (`outcome_request_again`). -/

namespace InfixLogic

/-- An outcome that stands for another one of an expression: it is the same, or both are failures on
account of a foreign operator. -/
def Outcome.Agrees (o o' : Outcome) (items : List Item) : Prop :=
  o = o' ∨ (¬ NamesConnectives items ∧ o.isSuccess = false ∧ o'.isSuccess = false)

namespace Vocabulary

variable {v : Vocabulary} {env : Text → Bool}

/-! ## What has a value -/

theorem names_of_step {i : Nat} {t : Token} {stack stack' : List Bool}
    (h : v.step .truth env i t stack = .ok stack') (htag : t.tag = .operator) :
    ∃ c : Connective, t.name = c.name := by
  simp only [step, htag] at h
  split at h
  · next c hc => exact ⟨c, (Connective.name_of_ofName? hc).symm⟩
  · cases h

/-- A run that ends has met no operator of a foreign name. -/
theorem names_of_runFrom {i : Nat} {ts : List Token} {stack stack' : List Bool}
    (h : v.runFrom .truth env i stack (Token.items ts) = .ok stack') :
    ∀ t ∈ ts, t.tag = .operator → ∃ c : Connective, t.name = c.name := by
  induction ts generalizing i stack with
  | nil => simp
  | cons t ts ih =>
    obtain ⟨m, hs, hrun⟩ := bind_ok.mp h
    rw [List.forall_mem_cons]
    refine ⟨fun htag => ?_, ih hrun⟩
    simpa using names_of_step hs (by simpa using htag)

/-- An expression with a value has no operator of a foreign name. -/
theorem namesConnectives_of_evaluate {items : List Item} {b : Bool}
    (h : v.evaluate items env = .ok b) : NamesConnectives items := by
  obtain ⟨us, hcompile, hrun⟩ := bind_ok.mp h
  obtain ⟨ts, rfl⟩ := tokens_of_compile hcompile
  obtain ⟨⟨⟩, -, hpost⟩ := bind_ok.mp hcompile
  obtain ⟨stack, hstack, -⟩ := bind_ok.mp hrun
  intro t ht htag
  obtain ⟨u, hu, hut⟩ := List.mem_map.mp ht
  obtain rfl : u = t := Item.token.inj hut
  -- The postfix form holds the operator, in its canonical form.
  have hmem : v.canonicalToken u ∈ us := by
    refine (toPostfix_perm hpost).mem_iff.mpr (List.mem_filter.mpr ⟨List.mem_map_of_mem hu, ?_⟩)
    simp [Token.isGrouper, htag]
  simpa using names_of_runFrom hstack _ hmem (by simpa using htag)

theorem namesConnectives_of_isSuccess {items : List Item} {env : Environment}
    (h : (v.outcome items env).isSuccess = true) : NamesConnectives items := by
  cases hev : v.evaluate items env.truth with
  | ok b => exact namesConnectives_of_evaluate hev
  | error f =>
    rw [outcome, hev] at h
    cases h

/-! ## Requests of one key -/

/-- Requests of one key have the same outcome, or both fail on account of a foreign operator. -/
theorem agree_of_same (hv : v.Ranked) {items items' : List Item} {env env' : Environment}
    {k k' : CacheKey} (hk : v.cacheKey items env = .ok k) (hk' : v.cacheKey items' env' = .ok k')
    (h : k.same k' = true) : (v.outcome items' env').Agrees (v.outcome items env) items := by
  by_cases hnames : NamesConnectives items
  · exact .inl (outcome_of_same hv hk hk' hnames h).symm
  · have hfails : (v.outcome items env).isSuccess = false :=
      Bool.eq_false_iff.mpr fun hsuccess => hnames (namesConnectives_of_isSuccess hsuccess)
    refine .inr ⟨hnames, Bool.eq_false_iff.mpr fun hsuccess => ?_, hfails⟩
    -- If the other one had a value, this one would have it too.
    have hnames' := namesConnectives_of_isSuccess hsuccess
    have heq := outcome_of_same hv hk' hk hnames' (CacheKey.same_symm h)
    exact Bool.false_ne_true ((heq ▸ hfails).symm.trans hsuccess)

end Vocabulary

/-! ## Sessions -/

/-- Every entry of a cache is the outcome of some request of its key. -/
def Cache.Recorded (v : Vocabulary) (c : Cache) : Prop :=
  ∀ e ∈ c.entries, ∃ items env, v.cacheKey items env = .ok e.1 ∧ v.outcome items env = e.2

namespace Cache.Recorded

variable {v : Vocabulary} {c : Cache}

theorem perform (h : Recorded v c) (command : CacheCommand) : Recorded v (v.perform c command) := by
  cases command with
  | request items env =>
    intro e he
    rcases Vocabulary.entry_of_request he with hmem | ⟨hk, hout⟩
    · exact h e hmem
    · exact ⟨items, env, hk, hout⟩
  | clear => exact fun _ he => nomatch he
  | resize capacity => exact h

theorem session (h : Recorded v c) (commands : List CacheCommand) :
    Recorded v (v.cacheAfter c commands) := by
  induction commands generalizing c with
  | nil => exact h
  | cons command commands ih => exact ih (h.perform command)

/-- What a request is answered agrees with its outcome. -/
theorem agrees (hv : v.Ranked) (h : Recorded v c) (items : List Item) (env : Environment) :
    (v.request c items env).outcome.Agrees (v.outcome items env) items := by
  rcases v.outcome_request c items env with hout | ⟨e, hmem, k, hk, hsame, hout⟩
  · exact .inl hout
  · obtain ⟨items', env', hk', hentry⟩ := h e hmem
    rw [hout, ← hentry]
    exact Vocabulary.agree_of_same hv hk hk' (CacheKey.same_symm hsame)

end Cache.Recorded

/-- What is last in a cache is found under its key, if nothing before it has the key. -/
theorem Cache.find?_of_last {c : Cache} {l : List (CacheKey × Outcome)} {e : CacheKey × Outcome}
    {k : CacheKey} (hlast : c.entries = l ++ [e]) (hnone : ∀ x ∈ l, x.1.identity ≠ k.identity)
    (h : e.1.identity = k.identity) : c.find? k = some e := by
  have hbefore : l.find? (fun x => x.1.same k) = none :=
    List.find?_eq_none.mpr fun x hx => CacheKey.same_iff.not.mpr (hnone x hx)
  have hsame : e.1.same k = true := CacheKey.same_iff.mpr h
  rw [find?, hlast, List.find?_append, hbefore, Option.none_or]
  simp [hsame]

namespace Vocabulary

variable {v : Vocabulary}

/-- The entry of a request is the last one after it. -/
theorem find?_request {c : Cache} (room : 0 < c.capacity) {items : List Item} {env : Environment}
    {k k' : CacheKey} (hk : v.cacheKey items env = .ok k) (h : k.identity = k'.identity) :
    ∃ e, (v.request c items env).cache.find? k' = some e ∧
      e.2 = (v.request c items env).outcome := by
  rcases request_of_cacheKey room hk with ⟨e, hfind, hrequest⟩ | ⟨hfind, hrequest⟩
  · rw [hrequest]
    have he := (Cache.identity_of_find? hfind).trans h
    refine ⟨e, Cache.find?_of_last rfl (fun x hx heq => ?_) he, rfl⟩
    have hdiffers := (List.mem_filter.mp hx).2
    rw [CacheKey.same_iff.mpr (heq.trans he.symm)] at hdiffers
    cases hdiffers
  · rw [hrequest]
    -- There is room for the new entry, so it is not the one that goes.
    have hlast : (c.insert (k, v.outcome items env)).evict.entries =
        c.entries.drop (c.insert (k, v.outcome items env)).excess ++
          [(k, v.outcome items env)] := by
      refine List.drop_append_of_le_length ?_
      simp only [Cache.excess, Cache.insert, Cache.size, List.length_append, List.length_singleton]
      omega
    refine ⟨_, Cache.find?_of_last hlast (fun x hx heq => ?_) h, rfl⟩
    refine Cache.find?_eq_none_iff.mp hfind ?_
    rw [h, ← heq]
    exact List.mem_map_of_mem (List.drop_subset _ _ hx)

/-- A request of the key of the last one is answered the same, whatever its own outcome is. -/
theorem outcome_request_again {c : Cache} (room : 0 < c.capacity) {items items' : List Item}
    {env env' : Environment} {k k' : CacheKey} (hk : v.cacheKey items env = .ok k)
    (hk' : v.cacheKey items' env' = .ok k') (h : k.same k' = true) :
    (v.request (v.request c items env).cache items' env').outcome =
      (v.request c items env).outcome := by
  obtain ⟨e, hfind, hout⟩ := v.find?_request room hk (CacheKey.same_iff.mp h)
  rw [← v.capacity_request c items env] at room
  rw [request, if_neg (not_le.mpr room), hk']
  simp only [hfind, hout]

/-! ## Foreign operators alone -/

/-- Single tokens of one key share tag and name. -/
theorem identity_of_same {a b : Token} {env env' : Environment} {k k' : CacheKey}
    (hk : v.cacheKey [.token a] env = .ok k) (hk' : v.cacheKey [.token b] env' = .ok k')
    (h : k.same k' = true) : a.identity = b.identity := by
  obtain ⟨j, hj, hkey⟩ := v.exists_cacheKey [a] env
  obtain ⟨j', hj', hkey'⟩ := v.exists_cacheKey [b] env'
  obtain rfl : j = k := Except.ok.inj (hj.symm.trans hk)
  obtain rfl : j' = k' := Except.ok.inj (hj'.symm.trans hk')
  have heq : v.keyOf [a] env = v.keyOf [b] env' := by
    rw [← hkey, ← hkey', CacheKey.same_iff.mp h]
  simpa [keyOf] using (Prod.mk.inj heq).1

/-- An operator of a foreign name is in no vocabulary. -/
theorem not_defines_of_foreign {t : Token} (htag : t.tag = .operator)
    (hname : ∀ c : Connective, t.name ≠ c.name) : v.defines t = false := by
  refine Bool.eq_false_iff.mpr fun hdef => ?_
  obtain ⟨d, hd, hdtag⟩ := defines_iff.mp hdef
  rcases mem_tokens_cases (mem_of_find? hd) with hop | ⟨c, rfl⟩ | rfl | rfl
  · cases (operand_tag hop).symm.trans (hdtag.trans htag)
  · exact hname c (name_of_find? hd).symm
  · cases hdtag.trans htag
  · cases hdtag.trans htag

/-- Alone, a foreign operator of arity two is told to dangle. -/
theorem outcome_foreign_binary {t : Token} (htag : t.tag = .operator)
    (hname : ∀ c : Connective, t.name ≠ c.name) (harity : t.arity = 2) (env : Environment) :
    v.outcome [.token t] env = .failure (Fault.danglingOperator 0).report := by
  have hcanonical := canonicalToken_of_not_defines (v := v) (not_defines_of_foreign htag hname)
  have hval : v.validate [.token t] = .error (.danglingOperator 0) := by
    rw [show [Item.token t] = Token.items [t] from rfl, validate_items, if_neg (by simp),
      List.map_singleton, hcanonical]
    simp [checkFrom, checkToken, checkOperand, checkSeparated, checkGroup, checkBinary,
      Token.isOperand, Token.isBinary, Token.isOperator, htag, harity, bind, Except.bind]
  rw [outcome, evaluate, compile, hval]
  rfl

/-- Alone, a foreign operator of another arity is told to be unknown. -/
theorem outcome_foreign_unary {t : Token} (htag : t.tag = .operator)
    (hname : ∀ c : Connective, t.name ≠ c.name) (harity : t.arity ≠ 2) (env : Environment) :
    v.outcome [.token t] env = .failure (Fault.unknownOperator t 0).report := by
  have hcanonical := canonicalToken_of_not_defines (v := v) (not_defines_of_foreign htag hname)
  have hval : v.validate (Token.items [t]) = .ok () := by
    rw [validate_items, if_neg (by simp), List.map_singleton, hcanonical]
    simp [checkFrom, checkToken, checkOperand, checkSeparated, checkGroup, checkBinary,
      checkNegation, Token.isOperand, Token.isBinary, Token.isOperator, htag, harity, bind,
      Except.bind]
  have hpost : v.toPostfix (Token.items [t]) = .ok [t] := by
    rw [toPostfix_items, List.map_singleton, hcanonical]
    simp [Conversion.run, Conversion.step, Conversion.start, Conversion.release,
      Conversion.finish?, htag, bind, Except.bind]
  have hrun : v.run .truth env.truth (Token.items [t]) = .error (.unknownOperator t 0) := by
    simp [run, Token.items, runFrom, canonical, hcanonical, step, htag,
      Connective.ofName?_eq_none hname, Interpretation.truth, bind, Except.bind]
  rw [outcome, evaluate, compile, show [Item.token t] = Token.items [t] from rfl, hval]
  show Outcome.ofExcept (v.toPostfix (Token.items [t]) >>= _) = _
  rw [hpost]
  show Outcome.ofExcept (v.run .truth env.truth (Token.items [t])) = _
  rw [hrun]
  rfl

end Vocabulary

open Vocabulary (standard)

/-- Requests of one key have outcomes that agree, and over every session a request is answered in
agreement with its outcome. The key says no more than that: of two operators of one foreign name of
which only the first has arity two each alone fails in its own way, but once the first was requested
the second is answered the same. -/
theorem outcomes_of_key_agree {items items' : List Item} {env env' : Environment} {k k' : CacheKey}
    (hk : standard.cacheKey items env = .ok k) (hk' : standard.cacheKey items' env' = .ok k')
    (h : k.same k' = true) :
    (standard.outcome items' env').Agrees (standard.outcome items env) items ∧
      (∀ capacity commands,
        (standard.request (standard.cacheAfter (.empty capacity) commands) items env).outcome.Agrees
          (standard.outcome items env) items) ∧
      ∀ a b : Token, items = [.token a] → items' = [.token b] → a.tag = .operator →
        (∀ c : Connective, a.name ≠ c.name) → a.arity = 2 → b.arity ≠ 2 →
          standard.outcome items' env' = .failure (Fault.unknownOperator b 0).report ∧
            ∀ capacity : Int, 0 < capacity →
              (standard.request (standard.cacheAfter (.empty capacity) [.request items env])
                items' env').outcome = .failure (Fault.danglingOperator 0).report := by
  have hv := Vocabulary.standard_conventional.toRanked
  refine ⟨Vocabulary.agree_of_same hv hk hk' h, fun capacity commands => ?_, ?_⟩
  · have hempty : Cache.Recorded standard (.empty capacity) := fun _ he => nomatch he
    exact (hempty.session commands).agrees hv items env
  · rintro a b rfl rfl htag hname ha hb
    obtain ⟨htags, hnames⟩ := Prod.mk.inj (Vocabulary.identity_of_same hk hk' h)
    refine ⟨Vocabulary.outcome_foreign_unary (htags ▸ htag) (hnames ▸ hname) hb env', ?_⟩
    intro capacity hpos
    have hroom : 0 < (Cache.empty capacity).capacity := hpos
    refine (Vocabulary.outcome_request_again hroom hk hk' h).trans ?_
    rcases standard.outcome_request (.empty capacity) [.token a] env with hout | ⟨e, he, -⟩
    · exact hout.trans (Vocabulary.outcome_foreign_binary htag hname ha env)
    · cases he

/-- The case of `XOR`, of arity two and without metadata: both fail, so their outcomes agree, but
the second is unknown, and is told to dangle after the first. -/
theorem outcomes_of_key_agree_xor :
    (standard.outcome [.token (.plain .operator "XOR")] []).Agrees
        (standard.outcome [.token ⟨.operator, "XOR", none, none, 2, 0, false⟩] [])
        [.token ⟨.operator, "XOR", none, none, 2, 0, false⟩] ∧
      standard.outcome [.token (.plain .operator "XOR")] [] =
        .failure (Fault.unknownOperator (.plain .operator "XOR") 0).report ∧
      (standard.request (standard.cacheAfter (.empty 2)
          [.request [.token ⟨.operator, "XOR", none, none, 2, 0, false⟩] []])
        [.token (.plain .operator "XOR")] []).outcome =
        .failure (Fault.danglingOperator 0).report := by
  have hforeign (c : Connective) : ("XOR" : Text) ≠ c.name := by cases c <;> decide
  have hkey : standard.cacheKey [.token ⟨.operator, "XOR", none, none, 2, 0, false⟩] [] =
      .ok ⟨[⟨.operator, "XOR", none, none, 2, 0, false⟩], [false, false, false]⟩ := by decide
  have hkey' : standard.cacheKey [.token (.plain .operator "XOR")] [] =
      .ok ⟨[.plain .operator "XOR"], [false, false, false]⟩ := by decide
  obtain ⟨hagree, -, halone⟩ := outcomes_of_key_agree hkey hkey' (by decide)
  obtain ⟨hunknown, hagain⟩ := halone _ _ rfl rfl rfl hforeign rfl (by decide)
  exact ⟨hagree, hunknown, hagain 2 (by decide)⟩

end InfixLogic
