import InfixLogic.Cache
import InfixLogic.Proofs.Bare

/- Sessions with a cache.

   A session asks a cache for outcomes, clears it and changes its capacity, in any order. What is
   proved is that nobody can tell a cache from none: every request is answered by the outcome of
   its expression in its environment (`answers_eq_direct`).

   Two things carry this. A key says everything about an outcome, as long as the operators of the
   expression are named after connectives (`outcome_of_same`): what the stages look past is not in
   the key, and what they look at is. And every entry of a cache is the outcome of some request of
   that key (`Cache.Faithful`), which no command changes (`Cache.Faithful.perform`). An operator of
   another name keeps its own arity and precedence, of which the key knows nothing. -/

namespace InfixLogic

/-- What can be asked of a cache. -/
inductive CacheCommand where
  | request (items : List Item) (env : Environment)
  | clear
  | resize (capacity : Int)

/-- The operators of an expression have the names of connectives. -/
def NamesConnectives (items : List Item) : Prop :=
  ∀ t, .token t ∈ items → t.tag = .operator → ∃ c : Connective, t.name = c.name

/-- The operators of a request have the names of connectives. -/
def CacheCommand.NamesConnectives : CacheCommand → Prop
  | .request items _ => InfixLogic.NamesConnectives items
  | _ => True

namespace Vocabulary

/-- The cache after a command. -/
def perform (v : Vocabulary) (c : Cache) : CacheCommand → Cache
  | .request items env => (v.request c items env).cache
  | .clear => c.clear
  | .resize capacity => c.resize capacity

/-- The answer to a command: a request has an outcome, nothing else has. -/
def answer? (v : Vocabulary) (c : Cache) : CacheCommand → Option Outcome
  | .request items env => some (v.request c items env).outcome
  | _ => none

/-- The answers to commands, one after another. -/
def answers (v : Vocabulary) (c : Cache) : List CacheCommand → List (Option Outcome)
  | [] => []
  | command :: rest => v.answer? c command :: v.answers (v.perform c command) rest

/-- The answer to a command without a cache. -/
def direct? (v : Vocabulary) : CacheCommand → Option Outcome
  | .request items env => some (v.outcome items env)
  | _ => none

variable {v : Vocabulary}

/-! ## Keys -/

/-- A request with a key is one of tokens. -/
theorem cacheKey_ok {items : List Item} {env : Environment} {k : CacheKey}
    (h : v.cacheKey items env = .ok k) :
    ∃ ts, items = Token.items ts ∧
      k = ⟨ts.map v.canonicalToken, v.freeVariables.map env.truth⟩ := by
  rcases v.mapM_canonical_cases items with ⟨ts, rfl⟩ | ⟨f, hf⟩
  · rw [cacheKey, mapM_canonical_items] at h
    exact ⟨ts, rfl, (Except.ok.inj h).symm⟩
  · rw [cacheKey, hf] at h
    cases h

/-- A request without a key fails as it does without a cache. -/
theorem outcome_of_cacheKey_error {items : List Item} {env : Environment} {f : Fault}
    (h : v.cacheKey items env = .error f) : v.outcome items env = .failure f.report := by
  rcases v.mapM_canonical_cases items with ⟨ts, rfl⟩ | ⟨g, hg⟩
  · rw [cacheKey, mapM_canonical_items] at h
    cases h
  · rw [cacheKey, hg] at h
    obtain rfl := Except.error.inj h
    rw [outcome, evaluate_of_foreign hg]
    rfl

/-! ## One request -/

/-- The four ways to answer a request. -/
inductive Answered (v : Vocabulary) (c : Cache) (items : List Item) (env : Environment) :
    CacheAnswer → Prop where
  | bypass (room : c.capacity ≤ 0) : Answered v c items env ⟨v.outcome items env, c, []⟩
  | keyless (room : 0 < c.capacity) {f : Fault} (hk : v.cacheKey items env = .error f) :
      Answered v c items env ⟨.failure f.report, c, []⟩
  | hit (room : 0 < c.capacity) {k : CacheKey} (hk : v.cacheKey items env = .ok k)
      {e : CacheKey × Outcome} (hfind : c.find? k = some e) :
      Answered v c items env ⟨e.2, c.touch e, []⟩
  | miss (room : 0 < c.capacity) {k : CacheKey} (hk : v.cacheKey items env = .ok k)
      (hfind : c.find? k = none) :
      Answered v c items env ⟨v.outcome items env, (c.insert (k, v.outcome items env)).evict,
        (c.insert (k, v.outcome items env)).evicted⟩

theorem answered_request (v : Vocabulary) (c : Cache) (items : List Item) (env : Environment) :
    Answered v c items env (v.request c items env) := by
  unfold request
  split
  · next room => exact .bypass room
  · next room =>
    have room : 0 < c.capacity := by omega
    split
    · next f hk => exact .keyless room hk
    · next k hk =>
      split
      · next e hfind => exact .hit room hk hfind
      · next hfind => exact .miss room hk hfind

/-- If there is room, a request with a key hits or misses. -/
theorem request_of_cacheKey {c : Cache} (room : 0 < c.capacity) {items : List Item}
    {env : Environment} {k : CacheKey} (hk : v.cacheKey items env = .ok k) :
    (∃ e, c.find? k = some e ∧ v.request c items env = ⟨e.2, c.touch e, []⟩) ∨
      (c.find? k = none ∧ v.request c items env =
        ⟨v.outcome items env, (c.insert (k, v.outcome items env)).evict,
          (c.insert (k, v.outcome items env)).evicted⟩) := by
  rw [request, if_neg (Int.not_le.mpr room), hk]
  cases hfind : c.find? k with
  | some e => exact .inl ⟨e, rfl, by simp only [hfind]⟩
  | none => exact .inr ⟨rfl, by simp only [hfind]⟩

/-- A request is answered by its outcome, or by an entry of its key. -/
theorem outcome_request (v : Vocabulary) (c : Cache) (items : List Item) (env : Environment) :
    (v.request c items env).outcome = v.outcome items env ∨
      ∃ e ∈ c.entries, ∃ k, v.cacheKey items env = .ok k ∧ e.1.same k = true ∧
        (v.request c items env).outcome = e.2 := by
  have ha := v.answered_request c items env
  generalize v.request c items env = a at ha
  cases ha with
  | bypass | miss => exact .inl rfl
  | keyless _ hk => exact .inl (outcome_of_cacheKey_error hk).symm
  | @hit _ k hk e hfind =>
    have hsame : e.1.same k = true := by simpa using List.find?_some hfind
    exact .inr ⟨e, List.mem_of_find?_eq_some hfind, k, hk, hsame, rfl⟩

/-- An entry of a cache after a request was there before, or is the outcome of the request under its
key. -/
theorem entry_of_request {c : Cache} {items : List Item} {env : Environment}
    {e : CacheKey × Outcome} (he : e ∈ (v.request c items env).cache.entries) :
    e ∈ c.entries ∨ (v.cacheKey items env = .ok e.1 ∧ v.outcome items env = e.2) := by
  have ha := v.answered_request c items env
  generalize v.request c items env = a at ha he
  cases ha with
  | bypass | keyless => exact .inl he
  | hit _ _ hfind =>
    rcases List.mem_append.mp he with he | he
    · exact .inl (List.mem_filter.mp he).1
    · exact .inl (List.mem_singleton.mp he ▸ List.mem_of_find?_eq_some hfind)
  | miss _ hk =>
    rcases List.mem_append.mp (List.drop_subset _ _ he) with he | he
    · exact .inl he
    · obtain rfl := List.mem_singleton.mp he
      exact .inr ⟨hk, rfl⟩

/-! ## What a key says -/

/-- Of tokens that share tag and name, and the name of a connective if they are operators, the
stages see the same. -/
theorem bare_canonicalToken_congr (hv : v.Ranked) {a b : Token} (h : a.identity = b.identity)
    (hname : a.tag = .operator → ∃ c : Connective, a.name = c.name) :
    (v.canonicalToken a).bare = (v.canonicalToken b).bare := by
  cases hdef : v.defines a with
  | true => rw [canonicalToken_congr h hdef]
  | false =>
    rw [canonicalToken_of_not_defines hdef,
      canonicalToken_of_not_defines ((defines_congr h).symm.trans hdef)]
    obtain ⟨htag, heq⟩ := Prod.mk.inj h
    have hop : a.tag ≠ .operator := by
      intro hop
      obtain ⟨c, hc⟩ := hname hop
      have : v.defines (v.operator c) = true := hv.defines_of_mem (v.operator_mem_tokens c)
      have hsame : a.identity = (v.operator c).identity := by simp [Token.identity, hop, hc]
      rw [← defines_congr hsame, hdef] at this
      cases this
    rw [Token.bare_of_not_operator hop, Token.bare_of_not_operator (htag ▸ hop), htag, heq]

theorem map_bare_congr (hv : v.Ranked) {ts us : List Token}
    (h : ts.map Token.identity = us.map Token.identity)
    (hnames : NamesConnectives (Token.items ts)) :
    (ts.map v.canonicalToken).map Token.bare = (us.map v.canonicalToken).map Token.bare := by
  induction ts generalizing us with
  | nil =>
    obtain rfl : us = [] := List.map_eq_nil_iff.mp h.symm
    rfl
  | cons t ts ih =>
    obtain ⟨u, us, rfl, hu, hus⟩ := List.map_eq_cons_iff.mp h.symm
    have ht := bare_canonicalToken_congr hv hu.symm (hnames t (by simp [Token.items]))
    have hts := ih hus.symm fun w hw => hnames w (List.mem_cons_of_mem _ hw)
    simp only [List.map_cons, ht, hts]

/-- The key of a request says everything about its outcome. -/
theorem outcome_of_same (hv : v.Ranked) {items items' : List Item} {env env' : Environment}
    {k k' : CacheKey} (hk : v.cacheKey items env = .ok k) (hk' : v.cacheKey items' env' = .ok k')
    (hnames : NamesConnectives items) (h : k.same k' = true) :
    v.outcome items env = v.outcome items' env' := by
  obtain ⟨ts, rfl, rfl⟩ := cacheKey_ok hk
  obtain ⟨us, rfl, rfl⟩ := cacheKey_ok hk'
  simp only [CacheKey.same, Bool.and_eq_true, beq_iff_eq] at h
  have hsame : ts.map Token.identity = us.map Token.identity := by
    simpa [Function.comp_def, canonicalToken_identity] using h.1
  exact outcome_congr (map_bare_congr hv hsame hnames) (List.map_inj_left.mp h.2)

end Vocabulary

/-! ## Entries -/

/-- Every entry of a cache is the outcome of a request of its key. -/
def Cache.Faithful (v : Vocabulary) (c : Cache) : Prop :=
  ∀ e ∈ c.entries, ∃ items env, NamesConnectives items ∧ v.cacheKey items env = .ok e.1 ∧
    v.outcome items env = e.2

namespace Cache.Faithful

variable {v : Vocabulary} {c : Cache}

theorem empty (capacity : Int) : Faithful v (Cache.empty capacity) :=
  fun _ he => nomatch he

/-- A request of a faithful cache is answered by its outcome and leaves the cache faithful. -/
theorem request (hv : v.Ranked) (h : Faithful v c) {items : List Item} (env : Environment)
    (hnames : NamesConnectives items) :
    (v.request c items env).outcome = v.outcome items env ∧
      Faithful v (v.request c items env).cache := by
  constructor
  · rcases v.outcome_request c items env with hout | ⟨e, hmem, k, hk, hsame, hout⟩
    · exact hout
    · -- The entry may come from other tokens and another environment, but their key is the same.
      obtain ⟨items', env', hnames', hk', hentry⟩ := h e hmem
      rw [hout, ← hentry]
      exact Vocabulary.outcome_of_same hv hk' hk hnames' hsame
  · intro e he
    rcases Vocabulary.entry_of_request he with hmem | ⟨hk, hout⟩
    · exact h e hmem
    · exact ⟨items, env, hnames, hk, hout⟩

/-- No command makes a cache unfaithful. -/
theorem perform (hv : v.Ranked) (h : Faithful v c) {command : CacheCommand}
    (hnames : command.NamesConnectives) : Faithful v (v.perform c command) := by
  cases command with
  | request items env => exact (h.request hv env hnames).2
  | clear => exact fun _ he => nomatch he
  | resize capacity => exact h

theorem answer? (hv : v.Ranked) (h : Faithful v c) {command : CacheCommand}
    (hnames : command.NamesConnectives) : v.answer? c command = v.direct? command := by
  cases command with
  | request items env => exact congrArg some (h.request hv env hnames).1
  | clear => rfl
  | resize capacity => rfl

/-- From a faithful cache on, a whole session is answered as it is without one. -/
theorem answers (hv : v.Ranked) (h : Faithful v c) {commands : List CacheCommand}
    (hnames : ∀ command ∈ commands, command.NamesConnectives) :
    v.answers c commands = commands.map v.direct? := by
  induction commands generalizing c with
  | nil => rfl
  | cons command commands ih =>
    have hfirst := hnames command (by simp)
    rw [Vocabulary.answers, List.map_cons, h.answer? hv hfirst,
      ih (h.perform hv hfirst) fun d hd => hnames d (by simp [hd])]

end Cache.Faithful

/-! ## Sessions -/

open Vocabulary (standard)

/-- A session that begins with an empty cache of any capacity is answered as it is without a
cache, whatever is asked and however the capacity changes. -/
theorem answers_eq_direct {commands : List CacheCommand}
    (hnames : ∀ command ∈ commands, command.NamesConnectives) (capacity : Int) :
    standard.answers (.empty capacity) commands = commands.map standard.direct? :=
  (Cache.Faithful.empty capacity).answers Vocabulary.standard_conventional.toRanked hnames

/-- The case of two requests of `! A`, the second of them for a NOT without metadata and met by
the entry of the first, and of one more in a cache that has lost its room. -/
theorem answers_eq_direct_look_alike :
    standard.answers (.empty 1) [
        .request [.token (standard.operator .not), .token (.variable "A")] [("A", .bool true)],
        .request [.token (.plain .operator "NOT"), .token (.variable "A")] [("A", .bool true)],
        .resize 0,
        .request [.token (.plain .operator "NOT"), .token (.variable "A")] []] =
      [some (.success false), some (.success false), none, some (.success true)] := by
  have hnot (t : Token) (ht : t.tag = .operator → t.name = "NOT") (u : Token)
      (hu : .token u ∈ [Item.token t, .token (.variable "A")]) (htag : u.tag = .operator) :
      ∃ c : Connective, u.name = c.name := by
    rcases List.mem_pair.mp hu with h | h
    · obtain rfl := Item.token.inj h
      exact ⟨.not, ht htag⟩
    · obtain rfl := Item.token.inj h
      cases htag
  refine (answers_eq_direct ?_ 1).trans (by decide)
  simp only [List.forall_mem_cons, List.not_mem_nil, false_implies, implies_true, and_true]
  exact ⟨hnot _ fun _ => rfl, hnot _ fun _ => rfl, trivial, hnot _ fun _ => rfl⟩

end InfixLogic
