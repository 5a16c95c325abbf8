import Mathlib.Data.Finset.Card
import InfixLogic.Proofs.Order
import InfixLogic.Proofs.Session

/- The keys that a cache holds.

   A cache is compared with its past: the keys that were requested since it was cleared, in the
   order of the requests (`requested`). Without the repeats, of which `dedup` keeps the last, these
   are the distinct keys with the least recently requested one first.

   A request moves its key to the end, in the past and in the cache alike, and what goes from the
   cache goes from the front. So a cache whose capacity stays the same holds as long an end of the
   distinct keys as there is room for (`HoldsRecent.session`). Whether a request hits, and what a
   miss evicts, is then a question about the past alone (`least_recently_used`). -/

namespace InfixLogic

/-! ## Keys -/

/-- What keys are compared by: the tags and names of the tokens, and the truth values. -/
abbrev CacheKey.Identity := List (Tag × Text) × List Bool

def CacheKey.identity (k : CacheKey) : Identity := (k.tokens.map Token.identity, k.inputs)

theorem CacheKey.same_iff {a b : CacheKey} : a.same b = true ↔ a.identity = b.identity := by
  simp [same, identity]

theorem CacheKey.same_symm {a b : CacheKey} (h : a.same b = true) : b.same a = true :=
  same_iff.mpr (same_iff.mp h).symm

namespace Cache

variable {c : Cache} {k : CacheKey} {e : CacheKey × Outcome}

/-- The keys of a cache, the least recently used first. -/
def keys (c : Cache) : List CacheKey.Identity := c.entries.map (·.1.identity)

@[simp] theorem keys_empty (capacity : Int) : (empty capacity).keys = [] := rfl

@[simp] theorem keys_clear (c : Cache) : c.clear.keys = [] := rfl

@[simp] theorem length_keys (c : Cache) : c.keys.length = c.size := List.length_map _

@[simp] theorem keys_insert (c : Cache) (e : CacheKey × Outcome) :
    (c.insert e).keys = c.keys ++ [e.1.identity] := by
  simp [keys, insert]

theorem keys_touch (c : Cache) (e : CacheKey × Outcome) :
    (c.touch e).keys = moveToEnd e.1.identity c.keys := by
  rw [keys, touch, List.map_append, moveToEnd, keys, List.filter_map]
  refine congrArg₂ (· ++ ·) (congrArg _ (List.filter_congr fun x _ => ?_)) rfl
  rw [Bool.eq_iff_iff, Function.comp_apply, decide_eq_true_iff, ne_eq, ← CacheKey.same_iff,
    Bool.not_eq_true, Bool.not_eq_true']

theorem keys_evict (c : Cache) : c.evict.keys = c.keys.drop c.excess := List.map_drop

theorem identity_evicted (c : Cache) :
    c.evicted.map CacheKey.identity = c.keys.take c.excess := by
  simp [evicted, keys, List.map_take, Function.comp_def]

/-- One entry more takes the room of one. -/
theorem excess_insert {capacity : Nat} (hcap : c.capacity = capacity) :
    (c.insert e).excess = c.size + 1 - capacity := by
  simp only [excess, size, insert, hcap, List.length_append, List.length_singleton]
  omega

theorem find?_eq_none_iff : c.find? k = none ↔ k.identity ∉ c.keys := by
  simp only [find?, keys, List.find?_eq_none, List.mem_map, not_exists, not_and,
    CacheKey.same_iff]

theorem mem_keys_of_find? (h : c.find? k = some e) : k.identity ∈ c.keys := by
  by_contra hno
  cases h.symm.trans (find?_eq_none_iff.mpr hno)

/-- What is found under a key has the key. -/
theorem identity_of_find? (h : c.find? k = some e) : e.1.identity = k.identity := by
  have hsame := List.find?_some h
  exact CacheKey.same_iff.mp hsame

end Cache

namespace Vocabulary

variable {v : Vocabulary} {c : Cache} {ts : List Token} {env : Environment}

/-- No request changes the capacity. -/
theorem capacity_request (v : Vocabulary) (c : Cache) (items : List Item) (env : Environment) :
    (v.request c items env).cache.capacity = c.capacity := by
  have ha := v.answered_request c items env
  generalize v.request c items env = a at ha
  cases ha <;> rfl

/-- A request without a key leaves the cache as it is. -/
theorem request_of_cacheKey_error (v : Vocabulary) {items : List Item} {f : Fault}
    (hk : v.cacheKey items env = .error f) : (v.request c items env).cache = c := by
  have ha := v.answered_request c items env
  generalize v.request c items env = a at ha
  cases ha with
  | bypass | keyless => rfl
  | hit _ h => cases h.symm.trans hk
  | miss _ h => cases h.symm.trans hk

/-- The key of a request for tokens, as keys are compared. -/
def keyOf (v : Vocabulary) (ts : List Token) (env : Environment) : CacheKey.Identity :=
  (ts.map Token.identity, v.freeVariables.map env.truth)

/-- A request for tokens has a key. -/
theorem exists_cacheKey (v : Vocabulary) (ts : List Token) (env : Environment) :
    ∃ k, v.cacheKey (Token.items ts) env = .ok k ∧ k.identity = v.keyOf ts env := by
  refine ⟨⟨ts.map v.canonicalToken, v.freeVariables.map env.truth⟩, ?_, ?_⟩
  · rw [cacheKey, mapM_canonical_items]
    rfl
  · simp [CacheKey.identity, keyOf, Function.comp_def, canonicalToken_identity]

/-- Whether a request hits: the cache counts it as a hit. -/
def Hits (v : Vocabulary) (c : Cache) (ts : List Token) (env : Environment) : Prop :=
  (v.request c (Token.items ts) env).cache.hits = c.hits + 1

instance (v : Vocabulary) (c : Cache) (ts : List Token) (env : Environment) :
    Decidable (v.Hits c ts env) :=
  inferInstanceAs (Decidable (_ = _))

/-- A request hits exactly if the cache has its key. -/
theorem hits_iff (room : 0 < c.capacity) : v.Hits c ts env ↔ v.keyOf ts env ∈ c.keys := by
  obtain ⟨k, hk, hkey⟩ := v.exists_cacheKey ts env
  rw [Hits, ← hkey]
  rcases request_of_cacheKey room hk with ⟨e, hfind, heq⟩ | ⟨hfind, heq⟩
  · rw [heq]
    simpa [Cache.touch] using Cache.mem_keys_of_find? hfind
  · rw [heq]
    simpa [Cache.insert, Cache.evict] using Cache.find?_eq_none_iff.mp hfind

/-- A request moves its key to the end, and as many of the last keys stay as there is room for. -/
theorem keys_request {capacity : Nat} (hpos : 0 < capacity) (hcap : c.capacity = capacity)
    (hsize : c.size ≤ capacity) (hnodup : c.keys.Nodup) {items : List Item} {k : CacheKey}
    (hk : v.cacheKey items env = .ok k) :
    (v.request c items env).cache.keys = (moveToEnd k.identity c.keys).rtake capacity := by
  have room : 0 < c.capacity := by omega
  rcases request_of_cacheKey room hk with ⟨e, hfind, heq⟩ | ⟨hfind, heq⟩
  · -- The keys are as many as before, so all of them stay.
    have hlen := length_moveToEnd_of_mem hnodup (Cache.mem_keys_of_find? hfind)
    rw [heq, Cache.keys_touch, Cache.identity_of_find? hfind, List.rtake, hlen, Cache.length_keys,
      Nat.sub_eq_zero_of_le hsize, List.drop_zero]
  · rw [heq, moveToEnd_of_notMem (Cache.find?_eq_none_iff.mp hfind), Cache.keys_evict,
      Cache.keys_insert, Cache.excess_insert hcap, List.rtake, List.length_append,
      List.length_singleton, Cache.length_keys]

/-- A request that hits evicts nothing. One that does not is counted as a miss, and the cache, if
it was full, forgets its first key. -/
theorem evicted_request {capacity : Nat} (hpos : 0 < capacity) (hcap : c.capacity = capacity)
    (hsize : c.size ≤ capacity) :
    (v.Hits c ts env ∧ (v.request c (Token.items ts) env).evicted = []) ∨
      (¬ v.Hits c ts env ∧ (v.request c (Token.items ts) env).cache.misses = c.misses + 1 ∧
        (v.request c (Token.items ts) env).evicted.map CacheKey.identity =
          if c.size < capacity then [] else c.keys.take 1) := by
  have room : 0 < c.capacity := by omega
  obtain ⟨k, hk, -⟩ := v.exists_cacheKey ts env
  rw [Hits]
  rcases request_of_cacheKey room hk with ⟨e, hfind, heq⟩ | ⟨hfind, heq⟩
  · rw [heq]
    exact .inl ⟨rfl, rfl⟩
  · rw [heq]
    refine .inr ⟨by simp [Cache.insert, Cache.evict], rfl, ?_⟩
    rw [Cache.identity_evicted, Cache.keys_insert, Cache.excess_insert hcap]
    split
    · next hroom => rw [Nat.sub_eq_zero_of_le (by omega), List.take_zero]
    · next hfull =>
      rw [show c.size + 1 - capacity = 1 by omega, List.take_append_of_le_length]
      rw [Cache.length_keys]
      omega

end Vocabulary

/-! ## Sessions -/

/-- A command is no change of the capacity. -/
def CacheCommand.KeepsCapacity : CacheCommand → Prop
  | .resize _ => False
  | _ => True

namespace Vocabulary

variable {v : Vocabulary} {c : Cache} {past : List CacheKey.Identity} {capacity : Nat}

/-- The keys that were requested since the last clear, after one more command. -/
def remember (v : Vocabulary) (past : List CacheKey.Identity) :
    CacheCommand → List CacheKey.Identity
  | .request items env =>
    match v.cacheKey items env with
    | .ok k => past ++ [k.identity]
    | .error _ => past
  | .clear => []
  | .resize _ => past

/-- The keys that were requested in a session since its last clear, in the order of the
requests. -/
def requested (v : Vocabulary) (commands : List CacheCommand) : List CacheKey.Identity :=
  commands.foldl v.remember []

/-- The cache after a session. -/
def cacheAfter (v : Vocabulary) (c : Cache) (commands : List CacheCommand) : Cache :=
  commands.foldl v.perform c

/-- A cache that holds the most recently requested keys that it has room for. -/
structure HoldsRecent (capacity : Nat) (past : List CacheKey.Identity) (c : Cache) : Prop where
  room : c.capacity = capacity
  keys : c.keys = past.dedup.rtake capacity

namespace HoldsRecent

theorem empty (capacity : Nat) : HoldsRecent capacity [] (.empty capacity) where
  room := rfl
  keys := by simp

theorem size_le (h : HoldsRecent capacity past c) : c.size ≤ capacity := by
  rw [← Cache.length_keys, h.keys, length_rtake]
  exact Nat.min_le_left _ _

theorem nodup (h : HoldsRecent capacity past c) : c.keys.Nodup := by
  rw [h.keys]
  exact past.nodup_dedup.sublist (rtake_suffix _ _).sublist

theorem perform (hpos : 0 < capacity) (h : HoldsRecent capacity past c) {command : CacheCommand}
    (hfixed : command.KeepsCapacity) :
    HoldsRecent capacity (v.remember past command) (v.perform c command) := by
  cases command with
  | request items env =>
    refine ⟨(v.capacity_request c items env).trans h.room, ?_⟩
    cases hk : v.cacheKey items env with
    | error f =>
      simpa [remember, hk, Vocabulary.perform, v.request_of_cacheKey_error hk] using h.keys
    | ok k =>
      simp only [remember, hk, Vocabulary.perform]
      rw [keys_request hpos h.room h.size_le h.nodup hk, h.keys,
        rtake_moveToEnd past.nodup_dedup, dedup_concat]
  | clear => exact ⟨h.room, by simp [remember, Vocabulary.perform]⟩
  | resize => exact hfixed.elim

/-- From a cache that holds the most recent keys a session leads to another one. -/
theorem session (hpos : 0 < capacity) {commands : List CacheCommand}
    (hfixed : ∀ command ∈ commands, command.KeepsCapacity) (h : HoldsRecent capacity past c) :
    HoldsRecent capacity (commands.foldl v.remember past) (v.cacheAfter c commands) := by
  induction commands generalizing past c with
  | nil => exact h
  | cons command commands ih =>
    exact ih (fun d hd => hfixed d (by simp [hd])) (h.perform hpos (hfixed command (by simp)))

theorem hits_iff (hpos : 0 < capacity) (h : HoldsRecent capacity past c) {ts : List Token}
    {env : Environment} : v.Hits c ts env ↔ ∃ older newer,
      past = older ++ v.keyOf ts env :: newer ∧ v.keyOf ts env ∉ newer ∧
        newer.toFinset.card < capacity := by
  have hroom := h.room
  rw [Vocabulary.hits_iff (by omega), h.keys, mem_rtake_dedup_iff]

end HoldsRecent

end Vocabulary

/-- What the rule of the least recently used key says of a cache, given the keys that were
requested since it was cleared. -/
structure LeastRecentlyUsed (v : Vocabulary) (capacity : Nat) (past : List CacheKey.Identity)
    (c : Cache) : Prop where
  /-- It holds the most recently requested ones of the distinct keys, the oldest first. -/
  keys : c.keys = past.dedup.rtake capacity
  /-- A request hits if its key was requested and few enough others were requested since. -/
  hit : ∀ ts env, v.Hits c ts env ↔ ∃ older newer,
    past = older ++ v.keyOf ts env :: newer ∧ v.keyOf ts env ∉ newer ∧
      newer.toFinset.card < capacity
  /-- A hit evicts nothing, and a miss evicts the least recently requested key if there is no room
  for one more. -/
  evicted : ∀ ts env,
    (v.Hits c ts env ∧ (v.request c (Token.items ts) env).evicted = []) ∨
      (¬ v.Hits c ts env ∧ (v.request c (Token.items ts) env).cache.misses = c.misses + 1 ∧
        (v.request c (Token.items ts) env).evicted.map CacheKey.identity =
          if c.size < capacity then [] else c.keys.take 1)

/-- A cache of a fixed capacity keeps to the rule over every session, and a request that hits in a
cache hits in every larger one after the same session. -/
theorem least_recently_used (v : Vocabulary) {capacity : Nat} (hpos : 0 < capacity)
    {commands : List CacheCommand} (hfixed : ∀ command ∈ commands, command.KeepsCapacity) :
    LeastRecentlyUsed v capacity (v.requested commands)
        (v.cacheAfter (.empty capacity) commands) ∧
      ∀ larger : Nat, capacity ≤ larger → ∀ ts env,
        v.Hits (v.cacheAfter (.empty capacity) commands) ts env →
          v.Hits (v.cacheAfter (.empty larger) commands) ts env := by
  have hsession (n : Nat) (hn : 0 < n) :=
    (Vocabulary.HoldsRecent.empty n).session (v := v) hn hfixed
  have h := hsession capacity hpos
  refine ⟨?_, fun larger hle ts env hhit => ?_⟩
  · exact {
      keys := h.keys
      hit := fun ts env => h.hits_iff hpos
      evicted := fun ts env => Vocabulary.evicted_request hpos h.room h.size_le }
  · obtain ⟨older, newer, hpast, hnot, hcard⟩ := (h.hits_iff hpos).mp hhit
    have hlarger := hsession larger (by omega)
    exact (hlarger.hits_iff (by omega)).mpr ⟨older, newer, hpast, hnot, by omega⟩

open Vocabulary (standard)

/-- The case of requests of A, of B and of A again with room for two: A is met, also with room for
three, and C evicts B. -/
theorem least_recently_used_again :
    standard.Hits (standard.cacheAfter (.empty 2) [.request [.token (.variable "A")] [],
        .request [.token (.variable "B")] [], .request [.token (.variable "A")] []])
        [.variable "A"] [] ∧
      standard.Hits (standard.cacheAfter (.empty 3) [.request [.token (.variable "A")] [],
        .request [.token (.variable "B")] [], .request [.token (.variable "A")] []])
        [.variable "A"] [] ∧
      (standard.request (standard.cacheAfter (.empty 2) [.request [.token (.variable "A")] [],
          .request [.token (.variable "B")] [], .request [.token (.variable "A")] []])
        [.token (.variable "C")] []).evicted.map CacheKey.identity =
          [standard.keyOf [.variable "B"] []] := by
  have hfixed : ∀ command ∈ [CacheCommand.request [.token (.variable "A")] [],
      .request [.token (.variable "B")] [], .request [.token (.variable "A")] []],
      command.KeepsCapacity := by
    simp [CacheCommand.KeepsCapacity]
  obtain ⟨hsmall, hlarger⟩ := least_recently_used standard (show 0 < 2 by decide) hfixed
  have hhit := (hsmall.hit [.variable "A"] []).mpr
    ⟨[standard.keyOf [.variable "A"] [], standard.keyOf [.variable "B"] []], [], rfl, by simp,
      by simp⟩
  refine ⟨hhit, hlarger 3 (by decide) _ _ hhit, ?_⟩
  rcases hsmall.evicted [.variable "C"] [] with ⟨hmet, -⟩ | ⟨-, -, hevicted⟩
  · exact absurd hmet (by decide)
  · exact hevicted.trans (by decide)

end InfixLogic
