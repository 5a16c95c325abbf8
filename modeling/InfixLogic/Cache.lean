import InfixLogic.Log

/- A cache of outcomes that forgets the least recently used one.

   The key of a request is its canonical tokens, compared by what identifies them, and the truth
   values of the free variables: nothing else has a say in the outcome. Entries stand with the
   least recently used first. A cache without room, and a request with a foreign item, go past
   the entries and the counters. -/

namespace InfixLogic

/-- What an outcome is stored under. -/
structure CacheKey where
  tokens : List Token
  inputs : List Bool
  deriving DecidableEq, Repr

def CacheKey.same (a b : CacheKey) : Bool :=
  a.tokens.map Token.identity == b.tokens.map Token.identity && a.inputs == b.inputs

/-- A cache: its capacity, its entries, and how many requests it has met and missed. -/
structure Cache where
  capacity : Int
  entries : List (CacheKey × Outcome)
  hits : Nat
  misses : Nat
  deriving DecidableEq, Repr

namespace Cache

def empty (capacity : Int) : Cache := ⟨capacity, [], 0, 0⟩

def size (c : Cache) : Nat := c.entries.length

def find? (c : Cache) (k : CacheKey) : Option (CacheKey × Outcome) :=
  c.entries.find? fun e => e.1.same k

/-- A cache where the entry of a key has become the most recently used one. -/
def touch (c : Cache) (e : CacheKey × Outcome) : Cache :=
  { c with entries := c.entries.filter (fun x => !x.1.same e.1) ++ [e], hits := c.hits + 1 }

/-- How many entries a cache has too many. -/
def excess (c : Cache) : Nat := ((c.size : Int) - c.capacity).toNat

def insert (c : Cache) (e : CacheKey × Outcome) : Cache :=
  { c with entries := c.entries ++ [e], misses := c.misses + 1 }

def evict (c : Cache) : Cache := { c with entries := c.entries.drop c.excess }

/-- The keys that have to go, oldest first. -/
def evicted (c : Cache) : List CacheKey := (c.entries.take c.excess).map (·.1)

def clear (c : Cache) : Cache := { c with entries := [], hits := 0, misses := 0 }

/-- A cache of another capacity. No entry goes before the next miss. -/
def resize (c : Cache) (capacity : Int) : Cache := { c with capacity }

end Cache

/-- The answer to a request: the outcome, the cache after it, and the keys that had to go. -/
structure CacheAnswer where
  outcome : Outcome
  cache : Cache
  evicted : List CacheKey
  deriving DecidableEq, Repr

namespace Vocabulary

/-- The key of a request; a foreign item leaves it without one. -/
def cacheKey (v : Vocabulary) (items : List Item) (env : Environment) : Except Fault CacheKey := do
  let ts ← items.mapM v.canonical
  pure ⟨ts, v.freeVariables.map env.truth⟩

/-- Answers a request with the help of a cache. -/
def request (v : Vocabulary) (c : Cache) (items : List Item) (env : Environment) : CacheAnswer :=
  if c.capacity ≤ 0 then ⟨v.outcome items env, c, []⟩
  else
    match v.cacheKey items env with
    | .error f => ⟨.failure f.report, c, []⟩
    | .ok k =>
      match c.find? k with
      | some e => ⟨e.2, c.touch e, []⟩
      | none =>
        let o := v.outcome items env
        let full := c.insert (k, o)
        ⟨o, full.evict, full.evicted⟩

/-! ## Log -/

def evictionLog (v : Vocabulary) (keys : List CacheKey) : List LogEntry :=
  keys.map fun k =>
    ⟨.evaluator, .debug, "Evicted cached result for '" ++ v.format (Token.items k.tokens) ++ "'"⟩

end Vocabulary

def Cache.clearLog (c : Cache) : List LogEntry :=
  [⟨.evaluator, .info, "Clearing " ++ Text.ofNat c.size ++ " cached results (" ++
    Text.ofNat c.hits ++ " hits, " ++ Text.ofNat c.misses ++ " misses)"⟩]

end InfixLogic
