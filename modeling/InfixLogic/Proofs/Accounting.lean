import InfixLogic.Proofs.Recency

/- What a cache counts and what it forgets.

   A cache is used by the requests for tokens that it has room for when they are made; all others go
   past it. `Usage` follows a session and keeps the capacity and the keys of these requests since the
   last clear. The capacity may change at any time and take any value, so a cache may hold more
   entries than it has room for, and the size is no bound to go by. What holds in every state is
   `Accounts`: hits and misses add up to the requests, the keys are the last of the distinct ones in
   the order of their last use, and there are no more of them than misses.

   Entries are forgotten one after another, the oldest first, as long as there are too many
   (`Cache.forget`). This ends before the cache is empty, since only a cache with room comes to it
   (`Cache.forget_entries`). What a single request does in any state of a session is `Handles`, and
   `requests_accounted` puts both together. -/

namespace InfixLogic

/-! ## Forgetting -/

namespace Cache

variable {c : Cache} {e : CacheKey × Outcome}

/-- Forgets the oldest entry as long as there are more than `capacity`: the keys that go, in order,
and the entries that stay. There is no result if an entry has to go where there is none. -/
def forget (capacity : Int) :
    List (CacheKey × Outcome) → Option (List CacheKey × List (CacheKey × Outcome))
  | [] => if capacity < 0 then none else some ([], [])
  | e :: es =>
    if capacity < (e :: es).length then (forget capacity es).map fun r => (e.1 :: r.1, r.2)
    else some ([], e :: es)

/-- If there is room for none or more, as many go as there are too many. -/
theorem forget_eq {capacity : Int} (h : 0 ≤ capacity) (es : List (CacheKey × Outcome)) :
    forget capacity es = some ((es.take (es.length - capacity).toNat).map (·.1),
      es.drop (es.length - capacity).toNat) := by
  induction es with
  | nil => rw [forget, if_neg (by omega)]; simp
  | cons e es ih =>
    rw [forget]
    split
    · next hmore =>
      rw [List.length_cons] at hmore ⊢
      have hone : ((es.length + 1 : Nat) - capacity).toNat = (es.length - capacity).toNat + 1 := by
        omega
      rw [ih, hone]
      rfl
    · next hroom =>
      rw [Int.toNat_of_nonpos (by omega)]
      rfl

theorem forget_entries (h : 0 ≤ c.capacity) :
    forget c.capacity c.entries = some (c.evicted, c.evict.entries) :=
  forget_eq h c.entries

/-- How many entries have to go for one more. -/
def surplus (c : Cache) : Nat := ((c.size : Int) + 1 - c.capacity).toNat

theorem surplus_le_size (h : 0 < c.capacity) : c.surplus ≤ c.size := by
  rw [surplus]
  omega

/-- What a hit leaves behind is what was there, in another order. -/
theorem perm_touch (hnodup : c.keys.Nodup) (he : e ∈ c.entries) :
    (c.touch e).entries.Perm c.entries := by
  have hsubset : c.entries ⊆ (c.touch e).entries := by
    intro x hx
    cases hsame : x.1.same e.1 with
    | true =>
      obtain rfl := List.inj_on_of_nodup_map hnodup hx he (CacheKey.same_iff.mp hsame)
      exact List.mem_append_right _ (List.mem_singleton_self x)
    | false => exact List.mem_append_left _ (List.mem_filter.mpr ⟨hx, by rw [hsame]; rfl⟩)
  have hlength : (c.touch e).size = c.size := by
    rw [← length_keys, keys_touch, length_moveToEnd_of_mem hnodup (List.mem_map_of_mem he),
      length_keys]
  exact ((List.subperm_of_subset hnodup.of_map hsubset).perm_of_length_le hlength.le).symm

/-- What a hit does. -/
structure Met (c : Cache) (a : CacheAnswer) : Prop where
  hits : a.cache.hits = c.hits + 1
  misses : a.cache.misses = c.misses
  entries : a.cache.entries.Perm c.entries
  evicted : a.evicted = []

theorem met_touch (hnodup : c.keys.Nodup) (he : e ∈ c.entries) (o : Outcome) :
    c.Met ⟨o, c.touch e, []⟩ where
  hits := rfl
  misses := rfl
  entries := perm_touch hnodup he
  evicted := rfl

/-- What a miss does that puts an entry into a cache. -/
structure Missed (c : Cache) (e : CacheKey × Outcome) (a : CacheAnswer) : Prop where
  hits : a.cache.hits = c.hits
  misses : a.cache.misses = c.misses + 1
  /-- The oldest keys go, in order. -/
  evicted : a.evicted = (c.entries.take c.surplus).map (·.1)
  /-- They are as many as there are too many, and never the one that has just come. -/
  length_evicted : a.evicted.length = c.surplus
  entries : a.cache.entries = c.entries.drop c.surplus ++ [e]
  size_le : (a.cache.size : Int) ≤ c.capacity
  /-- They have gone one after another, and none was to go where there is none. -/
  forgotten : forget c.capacity (c.entries ++ [e]) = some (a.evicted, a.cache.entries)

theorem missed_insert (h : 0 < c.capacity) (e : CacheKey × Outcome) (o : Outcome) :
    c.Missed e ⟨o, (c.insert e).evict, (c.insert e).evicted⟩ := by
  have hexcess : (c.insert e).excess = c.surplus := by
    simp [excess, surplus, size, insert]
  have hle : c.surplus ≤ c.entries.length := surplus_le_size h
  have hevicted : (c.insert e).evicted = (c.entries.take c.surplus).map (·.1) := by
    rw [evicted, hexcess, insert, List.take_append_of_le_length hle]
  have hentries : (c.insert e).evict.entries = c.entries.drop c.surplus ++ [e] := by
    rw [evict, hexcess, insert, List.drop_append_of_le_length hle]
  exact {
    hits := rfl
    misses := rfl
    evicted := hevicted
    length_evicted := by rw [hevicted, List.length_map, List.length_take, Nat.min_eq_left hle]
    entries := hentries
    size_le := by
      rw [size, hentries, List.length_append, List.length_drop, List.length_singleton]
      simp only [surplus, size] at hle ⊢
      omega
    forgotten := forget_entries (c := c.insert e) h.le }

end Cache

/-! ## Sessions -/

/-- What a cache has been used for: its capacity, and the keys of the requests that it had room for
since it was cleared, in the order of the requests. -/
structure Usage where
  capacity : Int
  keys : List CacheKey.Identity

namespace Vocabulary

variable {v : Vocabulary} {c : Cache} {u : Usage}

/-- The usage of a cache after one more command. -/
def use (v : Vocabulary) (u : Usage) : CacheCommand → Usage
  | .request items env =>
    if u.capacity ≤ 0 then u else { u with keys := v.remember u.keys (.request items env) }
  | .clear => { u with keys := [] }
  | .resize capacity => { u with capacity }

/-- The usage of a cache that began empty. -/
def usage (v : Vocabulary) (capacity : Int) (commands : List CacheCommand) : Usage :=
  commands.foldl v.use ⟨capacity, []⟩

/-- A request goes past a cache without room, and past any cache if it has no key. -/
theorem request_past {items : List Item} {env : Environment}
    (h : c.capacity ≤ 0 ∨ ∃ f, v.cacheKey items env = .error f) :
    (v.request c items env).cache = c ∧ (v.request c items env).evicted = [] := by
  have ha := v.answered_request c items env
  generalize v.request c items env = a at ha
  cases ha with
  | bypass | keyless => exact ⟨rfl, rfl⟩
  | hit room hk | miss room hk =>
    rcases h with hroom | ⟨f, hf⟩
    · omega
    · cases hk.symm.trans hf

/-- What is true of a cache in every state of a session. -/
structure Accounts (u : Usage) (c : Cache) : Prop where
  capacity : c.capacity = u.capacity
  /-- Each request that used the cache is counted once. -/
  counted : c.hits + c.misses = u.keys.length
  /-- The keys of the cache are the last ones that it was used for, in the order of last use. -/
  ordered : c.keys <:+ u.keys.dedup
  /-- Every entry has been missed. -/
  missed : c.size ≤ c.misses

namespace Accounts

theorem empty (capacity : Int) : Accounts ⟨capacity, []⟩ (.empty capacity) where
  capacity := rfl
  counted := rfl
  ordered := List.suffix_refl []
  missed := Nat.le_refl 0

theorem nodup (h : Accounts u c) : c.keys.Nodup :=
  u.keys.nodup_dedup.sublist h.ordered.sublist

/-- A hit counts one more request and moves its key to the end. -/
theorem touch (h : Accounts u c) {k : CacheKey} {e : CacheKey × Outcome}
    (hfind : c.find? k = some e) :
    Accounts { u with keys := u.keys ++ [k.identity] } (c.touch e) where
  capacity := h.capacity
  counted := by
    have := h.counted
    simp only [Cache.touch, List.length_append, List.length_singleton]
    omega
  ordered := by
    rw [Cache.keys_touch, Cache.identity_of_find? hfind, dedup_concat]
    exact moveToEnd_suffix _ h.ordered
  missed := by
    rw [← Cache.length_keys, Cache.keys_touch, Cache.identity_of_find? hfind,
      length_moveToEnd_of_mem h.nodup (Cache.mem_keys_of_find? hfind), Cache.length_keys]
    exact h.missed

/-- A miss counts one more request and puts its key at the end, and only older keys go. -/
theorem miss (h : Accounts u c) {k : CacheKey} (hfind : c.find? k = none) (o : Outcome) :
    Accounts { u with keys := u.keys ++ [k.identity] } (c.insert (k, o)).evict where
  capacity := h.capacity
  counted := by
    have := h.counted
    simp only [Cache.evict, Cache.insert, List.length_append, List.length_singleton]
    omega
  ordered := by
    have hmove := moveToEnd_suffix k.identity h.ordered
    rw [moveToEnd_of_notMem (Cache.find?_eq_none_iff.mp hfind), ← dedup_concat] at hmove
    rw [Cache.keys_evict, Cache.keys_insert]
    exact (List.drop_suffix _ _).trans hmove
  missed := by
    have := h.missed
    rw [← Cache.length_keys, Cache.keys_evict, Cache.keys_insert, List.length_drop,
      List.length_append, List.length_singleton, Cache.length_keys]
    simp only [Cache.evict, Cache.insert]
    omega

theorem request (h : Accounts u c) (items : List Item) (env : Environment) :
    Accounts (v.use u (.request items env)) (v.request c items env).cache := by
  by_cases room : c.capacity ≤ 0
  · rw [use, if_pos (h.capacity ▸ room), (request_past (.inl room)).1]
    exact h
  · rw [use, if_neg (h.capacity ▸ room), remember]
    cases hk : v.cacheKey items env with
    | error f =>
      rw [(request_past (.inr ⟨f, hk⟩)).1]
      exact h
    | ok k =>
      rcases request_of_cacheKey (Int.not_le.mp room) hk with ⟨e, hfind, heq⟩ | ⟨hfind, heq⟩
      · rw [heq]
        exact h.touch hfind
      · rw [heq]
        exact h.miss hfind _

theorem perform (h : Accounts u c) (command : CacheCommand) :
    Accounts (v.use u command) (v.perform c command) := by
  cases command with
  | request items env => exact h.request items env
  | clear => exact { capacity := h.capacity, counted := rfl, ordered := List.suffix_refl [],
                     missed := Nat.le_refl 0 }
  | resize capacity => exact { h with capacity := rfl }

/-- A session that begins with a cache that accounts for its usage ends with one. -/
theorem session (h : Accounts u c) (commands : List CacheCommand) :
    Accounts (commands.foldl v.use u) (v.cacheAfter c commands) := by
  induction commands generalizing u c with
  | nil => exact h
  | cons command commands ih => exact ih (h.perform command)

end Accounts

/-! ## Single requests -/

/-- Only tokens have a key. -/
theorem cacheKey_of_foreign {items : List Item} {w : Value} (hw : .foreign w ∈ items)
    (env : Environment) : ∃ f, v.cacheKey items env = .error f := by
  cases hk : v.cacheKey items env with
  | error f => exact ⟨f, rfl⟩
  | ok k =>
    obtain ⟨ts, rfl, -⟩ := cacheKey_ok hk
    obtain ⟨t, -, ht⟩ := List.mem_map.mp hw
    cases ht

/-- What a request does to a cache. -/
structure Handles (v : Vocabulary) (c : Cache) (items : List Item) (env : Environment) :
    Prop where
  /-- Without room, or with an item that is no token, it does nothing. -/
  past : (c.capacity ≤ 0 ∨ ∃ w, .foreign w ∈ items) →
    (v.request c items env).cache = c ∧ (v.request c items env).evicted = []
  /-- With a key that is there it removes nothing, whatever the size. -/
  met : ∀ ts, items = Token.items ts → 0 < c.capacity → v.keyOf ts env ∈ c.keys →
    c.Met (v.request c items env)
  /-- With another key it puts its outcome in. -/
  missed : ∀ ts, items = Token.items ts → 0 < c.capacity → v.keyOf ts env ∉ c.keys →
    ∃ k : CacheKey, k.identity = v.keyOf ts env ∧
      c.Missed (k, v.outcome items env) (v.request c items env)

theorem handles_request (hnodup : c.keys.Nodup) (items : List Item) (env : Environment) :
    v.Handles c items env where
  past := by
    rintro (room | ⟨w, hw⟩)
    · exact request_past (.inl room)
    · exact request_past (.inr (cacheKey_of_foreign hw env))
  met := by
    rintro ts rfl room hmem
    obtain ⟨k, hk, hkey⟩ := v.exists_cacheKey ts env
    rcases request_of_cacheKey room hk with ⟨e, hfind, heq⟩ | ⟨hfind, -⟩
    · rw [heq]
      exact Cache.met_touch hnodup (List.mem_of_find?_eq_some hfind) e.2
    · exact absurd (hkey ▸ hmem) (Cache.find?_eq_none_iff.mp hfind)
  missed := by
    rintro ts rfl room hnot
    obtain ⟨k, hk, hkey⟩ := v.exists_cacheKey ts env
    rcases request_of_cacheKey room hk with ⟨e, hfind, -⟩ | ⟨-, heq⟩
    · exact absurd (hkey ▸ Cache.mem_keys_of_find? hfind) hnot
    · rw [heq]
      exact ⟨k, hkey, Cache.missed_insert room _ _⟩

end Vocabulary

/-- In every state of a session, whatever has been asked and however the capacity has changed, a
cache accounts for what it has been used for, its keys are distinct, and any request is handled as it
should be. -/
theorem requests_accounted (v : Vocabulary) (capacity : Int) (commands : List CacheCommand) :
    Vocabulary.Accounts (v.usage capacity commands) (v.cacheAfter (.empty capacity) commands) ∧
      (v.cacheAfter (.empty capacity) commands).keys.Nodup ∧
      ∀ items env, v.Handles (v.cacheAfter (.empty capacity) commands) items env := by
  have haccounts := (Vocabulary.Accounts.empty capacity).session (v := v) commands
  exact ⟨haccounts, haccounts.nodup, Vocabulary.handles_request haccounts.nodup⟩

open Vocabulary (standard)

/-- A cache that has been asked for A, B and C with room for three, and then lost the room for two
of them. -/
def Cache.shrunk : Cache :=
  standard.cacheAfter (.empty 3) [.request [.token (.variable "A")] [],
    .request [.token (.variable "B")] [], .request [.token (.variable "C")] [], .resize 1]

/-- The cases of B in this cache, which is met and removes nothing, though there are two entries too
many; of TRUE, which is missed and evicts all three; and of an item that is no token. -/
theorem requests_accounted_shrunk :
    Cache.shrunk.hits + Cache.shrunk.misses = 3 ∧
      (standard.request .shrunk [.token (.variable "B")] []).evicted = [] ∧
      (standard.request .shrunk [.token (.variable "B")] []).cache.entries.Perm
        Cache.shrunk.entries ∧
      (standard.request .shrunk [.token (.constant "TRUE" true)] []).evicted.map
          CacheKey.identity =
        [standard.keyOf [.variable "A"] [], standard.keyOf [.variable "B"] [],
          standard.keyOf [.variable "C"] []] ∧
      ((standard.request .shrunk [.token (.constant "TRUE" true)] []).cache.size : Int) ≤ 1 ∧
      (standard.request .shrunk [.foreign .null] []).cache = .shrunk := by
  obtain ⟨haccounts, -, hhandles⟩ := requests_accounted standard 3
    [.request [.token (.variable "A")] [], .request [.token (.variable "B")] [],
      .request [.token (.variable "C")] [], .resize 1]
  have hmet := (hhandles [.token (.variable "B")] []).met [.variable "B"] rfl (by decide) (by decide)
  obtain ⟨k, -, hmissed⟩ := (hhandles [.token (.constant "TRUE" true)] []).missed
    [.constant "TRUE" true] rfl (by decide) (by decide)
  refine ⟨haccounts.counted.trans (by decide), hmet.evicted, hmet.entries, ?_, hmissed.size_le,
    ((hhandles [.foreign .null] []).past (.inr ⟨.null, by simp⟩)).1⟩
  exact (congrArg (List.map CacheKey.identity) hmissed.evicted).trans (by decide)

end InfixLogic
