import InfixLogic.Settings

/- Settings as a document proposes them, when nothing is known about their types.

   The conditions on settings are checked one after another, and a check that comes upon a value
   it can do nothing with fails as such. `check_proposal` says that for settings of the right
   types the check is that of the settings. -/

namespace InfixLogic

structure Proposal where
  freeVariables : Value
  constants : Value
  precedence : Value
  rightAssociative : Value
  errorSentinel : Value
  cacheSize : Value
  level : Value

/-- Why a proposal is turned down: a condition is not met, or a check comes upon a value of the
wrong type. -/
inductive ProposalFault where
  | violation (v : Violation)
  | wrongType
  deriving DecidableEq, Repr

/-- The proposal that settings are. -/
def Settings.proposal (s : Settings) : Proposal where
  freeVariables := .list (s.freeVariables.map .str)
  constants := .object (s.constants.map fun p => (p.1, .bool p.2))
  precedence := .object (s.precedence.map fun p => (p.1, .int p.2))
  rightAssociative := .list (s.rightAssociative.map .str)
  errorSentinel := s.errorSentinel
  cacheSize := .int s.cacheSize
  level := .str s.level

namespace Proposal

/-! ## Sets -/

/-- The members of a value as a set: the items of a list, the names of an object, or the
characters of a text. -/
def members : Value → Except ProposalFault (List Value)
  | .object ms => .ok (ms.map fun m => .str m.1)
  | .list vs => if vs.all Value.isKey then .ok vs else .error .wrongType
  | .str t => .ok (t.map fun c => .str [c])
  | _ => .error .wrongType

def holds (set : List Value) (v : Value) : Bool := set.any fun w => w.same v

/-! ## Order -/

def number? : Value → Option Binary64
  | .bool b => some (.finite false b.toNat 0)
  | .int n => some (.finite (n < 0) n.natAbs 0)
  | .float bits => some (Binary64.decode bits)
  | _ => none

/-- An integer with a sign apart. -/
def signed (negative : Bool) (m : Nat) : Int := if negative then -(m : Int) else m

/-- Whether a number is less than another one. -/
def lessNumber : Binary64 → Binary64 → Bool
  | .nan, _ | _, .nan => false
  | .infinite a, .infinite b => a && !b
  | .infinite a, .finite _ _ _ => a
  | .finite _ _ _, .infinite b => !b
  | .finite a m e, .finite b n f =>
    signed a m * Nat.pow 2 (e - f).toNat < signed b n * Nat.pow 2 (f - e).toNat

/-- Whether a text comes before another one, code point by code point. -/
def lessText : Text → Text → Bool
  | _, [] => false
  | [], _ :: _ => true
  | c :: cs, d :: ds => c.value < d.value || c == d && lessText cs ds

mutual

/-- Whether a value is less than another one, if there is an order on them. -/
def less : Value → Value → Except ProposalFault Bool
  | .str s, .str t => .ok (lessText s t)
  | .list vs, .list ws => lessItems vs ws
  | v, w =>
    match number? v, number? w with
    | some a, some b => .ok (lessNumber a b)
    | _, _ => .error .wrongType

/-- The first items that differ decide. -/
def lessItems : List Value → List Value → Except ProposalFault Bool
  | _, [] => .ok false
  | [], _ :: _ => .ok true
  | v :: vs, w :: ws => if v.same w then lessItems vs ws else less v w

end

/-! ## Checks -/

/-- Demands that a condition is met. -/
def demand (v : Violation) (isMet : Bool) : Except ProposalFault Unit :=
  if isMet then .ok () else .error (.violation v)

/-- The precedence of a connective. -/
def rank (p : Proposal) (c : Connective) : Except ProposalFault Value :=
  match p.precedence.member? c.name with
  | some v => .ok v
  | none => .error .wrongType

def isConnectives (set : List Value) : Bool :=
  Connective.all.all (fun c => holds set (.str c.name)) &&
    set.all fun v => holds (Connective.all.map fun c => .str c.name) v

def ranksInOrder (p : Proposal) : Except ProposalFault Bool := do
  let top ← p.rank .not
  let middle ← p.rank .and
  if ← less middle top then less (← p.rank .or) middle else pure false

def isNatural (v : Value) : Except ProposalFault Bool :=
  match number? v with
  | some .nan => .ok false
  | some x => .ok (!lessNumber x (.finite false 0 0))
  | none => .error .wrongType

def namesLevel : Value → Except ProposalFault Bool
  | .str t => .ok (Settings.levelNames.contains t)
  | .list _ | .object _ => .error .wrongType
  | _ => .ok false

/-- Checks a proposal, condition by condition. -/
def check (p : Proposal) : Except ProposalFault Unit := do
  let ranked ← members p.precedence
  demand .precedenceNames (isConnectives ranked)
  demand .precedenceOrder (← p.ranksInOrder)
  demand .rightAssociativeNames ((← members p.rightAssociative).all (holds ranked))
  let free ← members p.freeVariables
  let constants ← members p.constants
  demand .constantsAreFree (free.all fun v => !holds constants v)
  demand .sentinelIsTruth (!Settings.isTruth p.errorSentinel)
  demand .negativeCacheSize (← isNatural p.cacheSize)
  demand .unknownLevel (← namesLevel p.level)

/-! ## Settings of the right types -/

theorem holds_map_str {α : Type} (f : α → Text) (as : List α) (t : Text) :
    holds (as.map fun a => .str (f a)) (.str t) = as.any fun a => f a == t := by
  simp [holds, List.any_map, Function.comp_def, Value.same]

theorem isSome_lookup {α : Type} (t : Text) (ps : List (Text × α)) :
    (ps.lookup t).isSome = ps.any fun p => p.1 == t := by
  induction ps with
  | nil => rfl
  | cons p ps ih =>
    rw [List.lookup_cons, List.any_cons, ← ih]
    by_cases h : t = p.1
    · simp [h]
    · simp [beq_false_of_ne h, beq_false_of_ne (Ne.symm h)]

theorem lookup_map {α β : Type} (f : α → β) (t : Text) (ps : List (Text × α)) :
    (ps.map fun p => (p.1, f p.2)).lookup t = (ps.lookup t).map f := by
  induction ps with
  | nil => rfl
  | cons p ps ih =>
    rw [List.map_cons, List.lookup_cons, List.lookup_cons, ih]
    cases t == p.1 <;> rfl

theorem signed_natAbs (n : Int) : signed (n < 0) n.natAbs = n := by
  by_cases h : n < 0
  · rw [signed, decide_eq_true h, if_pos rfl]
    omega
  · rw [signed, decide_eq_false h, if_neg Bool.false_ne_true]
    omega

theorem less_int (a b : Int) : less (.int a) (.int b) = .ok (decide (a < b)) := by
  simp [less, number?, lessNumber, signed_natAbs]

theorem isNatural_int (n : Int) : isNatural (.int n) = .ok (decide (0 ≤ n)) := by
  have zero : signed false 0 * Nat.pow 2 (0 - 0 : Int).toNat = 0 := rfl
  have one : n * Nat.pow 2 (0 - 0 : Int).toNat = n := Int.mul_one n
  simp only [isNatural, number?, lessNumber, signed_natAbs, zero, one, ← decide_not, Int.not_lt]

theorem isConnectives_ranked (s : Settings) :
    isConnectives (s.precedence.map fun p => .str p.1) = s.ranksConnectives := by
  simp only [isConnectives, Settings.ranksConnectives, holds_map_str, isSome_lookup, List.all_map,
    Function.comp_def, Connective.ofName?, List.isSome_find?]

theorem rank_proposal (s : Settings) (c : Connective) (h : s.ranksConnectives = true) :
    s.proposal.rank c = .ok (.int (s.rank c)) := by
  have found : (s.precedence.lookup c.name).isSome = true := by
    simp only [Settings.ranksConnectives, Connective.all, Bool.and_eq_true, List.all_cons] at h
    cases c <;> simp [h]
  obtain ⟨n, hn⟩ := Option.isSome_iff_exists.mp found
  simp [rank, Settings.proposal, Value.member?, Settings.rank, lookup_map, hn]

theorem ranksInOrder_proposal (s : Settings) (h : s.ranksConnectives = true) :
    s.proposal.ranksInOrder =
      .ok (decide (s.rank .and < s.rank .not) && decide (s.rank .or < s.rank .and)) := by
  simp only [ranksInOrder, rank_proposal s _ h, less_int, bind, Except.bind, pure, Except.pure]
  cases decide (s.rank .and < s.rank .not) <;> rfl

end Proposal

open Proposal in
/-- The check of a proposal agrees with that of the settings which it is. -/
theorem Settings.check_proposal (s : Settings) :
    s.proposal.check = (s.violation?.map ProposalFault.violation).elim (.ok ()) .error := by
  have ranked : members s.proposal.precedence = .ok (s.precedence.map fun p => .str p.1) := by
    simp [members, proposal, Function.comp_def]
  have right : members s.proposal.rightAssociative = .ok (s.rightAssociative.map .str) := by
    simp [members, proposal, Value.isKey]
  have free : members s.proposal.freeVariables = .ok (s.freeVariables.map .str) := by
    simp [members, proposal, Value.isKey]
  have constants : members s.proposal.constants = .ok (s.constants.map fun p => .str p.1) := by
    simp [members, proposal, Function.comp_def]
  have rightDefined : (s.rightAssociative.map Value.str).all
      (holds (s.precedence.map fun p => .str p.1)) =
      s.rightAssociative.all fun n => (s.precedence.lookup n).isSome := by
    simp only [List.all_map, Function.comp_def, holds_map_str, isSome_lookup]
  have apart : ((s.freeVariables.map Value.str).all fun v =>
      !holds (s.constants.map fun p => .str p.1) v) =
      s.freeVariables.all fun n => (s.constants.lookup n).isNone := by
    simp only [List.all_map, Function.comp_def, holds_map_str, ← isSome_lookup, Option.not_isSome]
  have sentinel : s.proposal.errorSentinel = s.errorSentinel := rfl
  have natural : isNatural s.proposal.cacheSize = .ok (decide (0 ≤ s.cacheSize)) := isNatural_int _
  have level : Proposal.namesLevel s.proposal.level = .ok (levelNames.contains s.level) := rfl
  simp only [check, ranked, right, free, constants, sentinel, natural, level, bind, Except.bind,
    isConnectives_ranked, rightDefined, apart, violation?, conditions, List.find?_cons,
    List.find?_nil]
  cases h : s.ranksConnectives
  · rfl
  simp only [ranksInOrder_proposal s h]
  cases decide (s.rank .and < s.rank .not) && decide (s.rank .or < s.rank .and)
  · rfl
  cases s.rightAssociative.all fun n => (s.precedence.lookup n).isSome
  · rfl
  cases s.freeVariables.all fun n => (s.constants.lookup n).isNone
  · rfl
  cases isTruth s.errorSentinel
  · cases decide (0 ≤ s.cacheSize)
    · rfl
    · cases levelNames.contains s.level <;> rfl
  · rfl

end InfixLogic
