import Mathlib.Data.List.Nodup
import Mathlib.Data.List.Forall2
import InfixLogic.Evaluation
import InfixLogic.Proofs.Stages
import InfixLogic.Grammar

/- Canonical tokens.

   Every stage puts `canonicalToken t` in the place of `t` before it looks at it. The canonical
   token has the tag and the name of the token it stands for, it is its own canonical token, and
   for a token of the vocabulary it depends on nothing else. Over a list of tokens a stage is
   therefore a function of `ts.map v.canonicalToken`: `validate_items` says so for the scan, and
   the module on conversion for the other stages.

   `Ranked` and `Conventional` collect what the theorems on meaning need of a vocabulary;
   `standard_conventional` says that the standard one has it. -/

namespace InfixLogic

namespace Vocabulary

variable {v : Vocabulary}

theorem name_of_find? {n : Text} {d : Token} (h : v.find? n = some d) : d.name = n := by
  have := List.find?_some h
  simpa using this

theorem mem_of_find? {n : Text} {d : Token} (h : v.find? n = some d) : d ∈ v.tokens :=
  List.mem_of_find?_eq_some h

@[simp] theorem canonicalToken_tag (v : Vocabulary) (t : Token) :
    (v.canonicalToken t).tag = t.tag := by
  unfold canonicalToken
  split
  · split
    · assumption
    · rfl
  · rfl

@[simp] theorem canonicalToken_name (v : Vocabulary) (t : Token) :
    (v.canonicalToken t).name = t.name := by
  unfold canonicalToken
  split
  · next d hd =>
    split
    · exact name_of_find? hd
    · rfl
  · rfl

theorem canonicalToken_identity (v : Vocabulary) (t : Token) :
    (v.canonicalToken t).identity = t.identity := by
  simp [Token.identity]

/-- A token is in the vocabulary if the token of its name has its tag. -/
theorem defines_iff {t : Token} :
    v.defines t = true ↔ ∃ d, v.find? t.name = some d ∧ d.tag = t.tag := by
  unfold defines
  cases h : v.find? t.name with
  | none => simp
  | some d => simp [Token.same, Token.identity, name_of_find? h]

/-- The canonical token of a token of the vocabulary is the vocabulary's own. -/
theorem find?_canonicalToken {t : Token} (h : v.defines t = true) :
    v.find? t.name = some (v.canonicalToken t) := by
  obtain ⟨d, hd, htag⟩ := defines_iff.mp h
  simp [canonicalToken, hd, htag]

theorem canonicalToken_mem {t : Token} (h : v.defines t = true) : v.canonicalToken t ∈ v.tokens :=
  mem_of_find? (find?_canonicalToken h)

/-- A token from outside of the vocabulary stays as it is. -/
theorem canonicalToken_of_not_defines {t : Token} (h : v.defines t = false) :
    v.canonicalToken t = t := by
  unfold canonicalToken
  split
  · next d hd =>
    split
    · next htag => rw [defines_iff.mpr ⟨d, hd, htag⟩] at h; cases h
    · rfl
  · rfl

theorem defines_congr {a b : Token} (h : a.identity = b.identity) :
    v.defines a = v.defines b := by
  obtain ⟨htag, hname⟩ := Prod.mk.inj h
  rw [Bool.eq_iff_iff, defines_iff, defines_iff, htag, hname]

@[simp] theorem defines_canonicalToken (v : Vocabulary) (t : Token) :
    v.defines (v.canonicalToken t) = v.defines t :=
  defines_congr (canonicalToken_identity v t)

/-- Inside of the vocabulary tag and name say everything. -/
theorem canonicalToken_congr {a b : Token} (h : a.identity = b.identity)
    (hd : v.defines a = true) : v.canonicalToken a = v.canonicalToken b := by
  have ha := find?_canonicalToken hd
  have hb := find?_canonicalToken ((defines_congr h).symm.trans hd)
  rw [(Prod.mk.inj h).2, hb] at ha
  exact (Option.some.inj ha).symm

@[simp] theorem canonicalToken_canonicalToken (v : Vocabulary) (t : Token) :
    v.canonicalToken (v.canonicalToken t) = v.canonicalToken t := by
  cases h : v.defines t
  · rw [canonicalToken_of_not_defines h, canonicalToken_of_not_defines h]
  · exact (canonicalToken_congr (canonicalToken_identity v t).symm h).symm

/-- Of two tokens the second is the vocabulary's own with the tag and the name of the first. -/
structure Predefined (v : Vocabulary) (t u : Token) : Prop where
  mem : u ∈ v.tokens
  identity : u.identity = t.identity

theorem predefined_canonicalToken {t : Token} (h : v.defines t = true) :
    v.Predefined t (v.canonicalToken t) :=
  ⟨canonicalToken_mem h, canonicalToken_identity v t⟩

@[simp] theorem isFree_canonicalToken (v : Vocabulary) (t : Token) :
    v.isFree (v.canonicalToken t) = v.isFree t := by
  simp [isFree, Token.isOperand]

/-! ## Lists of tokens -/

theorem forall₂_predefined {ts : List Token} (h : ∀ t ∈ ts, v.defines t = true) :
    List.Forall₂ v.Predefined ts (ts.map v.canonicalToken) :=
  List.forall₂_map_right_iff.mpr (List.forall₂_same.mpr fun t ht =>
    predefined_canonicalToken (h t ht))

theorem mapM_canonical_items (v : Vocabulary) (ts : List Token) :
    (Token.items ts).mapM v.canonical = .ok (ts.map v.canonicalToken) :=
  mapM_map_ok fun _ _ => rfl

/-- The check of a list of tokens is a scan of their canonical forms. -/
theorem validate_items (v : Vocabulary) (ts : List Token) :
    v.validate (Token.items ts) =
      if ts = [] then .error .empty else v.checkFrom none 0 (ts.map v.canonicalToken) := by
  unfold validate
  rw [mapM_canonical_items]
  cases ts <;> rfl

/-! ## Lists of items -/

/-- The items of an expression are tokens, or one of them has no canonical form. -/
theorem mapM_canonical_cases (v : Vocabulary) (items : List Item) :
    (∃ ts, items = Token.items ts) ∨ ∃ f, items.mapM v.canonical = .error f := by
  induction items with
  | nil => exact .inl ⟨[], rfl⟩
  | cons item items ih =>
    rw [List.mapM_cons]
    cases item with
    | foreign w => exact .inr ⟨.notToken w.written, rfl⟩
    | token t =>
      rcases ih with ⟨ts, rfl⟩ | ⟨f, hf⟩
      · exact .inl ⟨t :: ts, rfl⟩
      · exact .inr ⟨f, by rw [hf]; rfl⟩

/-- An expression with an item that is no token fails the check, at the first such item. -/
theorem validate_of_foreign {items : List Item} {f : Fault}
    (h : items.mapM v.canonical = .error f) : v.validate items = .error f := by
  cases items with
  | nil => cases h
  | cons item items =>
    rw [validate, h]
    rfl

/-- Only tokens have a postfix form. -/
theorem tokens_of_compile {items : List Item} {us : List Token} (h : v.compile items = .ok us) :
    ∃ ts, items = Token.items ts := by
  rcases v.mapM_canonical_cases items with hts | ⟨f, hf⟩
  · exact hts
  · obtain ⟨⟨⟩, hval, -⟩ := bind_ok.mp h
    cases hval.symm.trans (validate_of_foreign hf)

theorem evaluate_of_foreign {items : List Item} {f : Fault}
    (h : items.mapM v.canonical = .error f) (env : Text → Bool) :
    v.evaluate items env = .error f := by
  rw [evaluate, compile, validate_of_foreign h]
  rfl

/-! ## Vocabularies with the usual conventions -/

/-- A vocabulary whose tokens have names of their own and in which NOT groups more strongly than
AND and AND more strongly than OR. -/
structure Ranked (v : Vocabulary) : Prop where
  names : (v.tokens.map (·.name)).Nodup
  or_lt_and : v.rank .or < v.rank .and
  and_lt_not : v.rank .and < v.rank .not

/-- A ranked vocabulary whose binary connectives group to the left. A NOT waits for the NOT behind
it. -/
structure Conventional (v : Vocabulary) : Prop extends Ranked v where
  not_right : v.groupsRight .not = true
  and_left : v.groupsRight .and = false
  or_left : v.groupsRight .or = false

theorem standard_conventional : standard.Conventional where
  names := by decide
  or_lt_and := by decide
  and_lt_not := by decide
  not_right := by decide
  and_left := by decide
  or_left := by decide

/-- Where names are distinct, a token of the vocabulary is found under its name. -/
theorem Ranked.find?_name (hv : v.Ranked) {t : Token} (h : t ∈ v.tokens) :
    v.find? t.name = some t := by
  have hsome : (v.find? t.name).isSome := List.find?_isSome.mpr ⟨t, h, by simp⟩
  obtain ⟨d, hd⟩ := Option.isSome_iff_exists.mp hsome
  rw [hd, List.inj_on_of_nodup_map hv.names (mem_of_find? hd) h (name_of_find? hd)]

theorem Ranked.defines_of_mem (hv : v.Ranked) {t : Token} (h : t ∈ v.tokens) :
    v.defines t = true :=
  defines_iff.mpr ⟨t, hv.find?_name h, rfl⟩

theorem Ranked.canonicalToken_of_mem (hv : v.Ranked) {t : Token} (h : t ∈ v.tokens) :
    v.canonicalToken t = t := by
  have := find?_canonicalToken (hv.defines_of_mem h)
  rw [hv.find?_name h] at this
  exact (Option.some.inj this).symm

theorem Ranked.map_canonicalToken (hv : v.Ranked) {ts : List Token}
    (h : ∀ t ∈ ts, t ∈ v.tokens) : ts.map v.canonicalToken = ts := by
  rw [List.map_congr_left fun t ht => hv.canonicalToken_of_mem (h t ht), List.map_id']

/-! ## The members of a vocabulary -/

theorem operator_mem_tokens (v : Vocabulary) (c : Connective) : v.operator c ∈ v.tokens := by
  have : v.operator c ∈ v.operators := by cases c <;> simp [operators, Connective.all]
  simp [tokens, this]

theorem operand_mem_tokens {t : Token} (h : t ∈ v.operands) : t ∈ v.tokens := by
  simp [tokens, h]

theorem leftParen_mem_tokens (v : Vocabulary) : .leftParen ∈ v.tokens := by
  simp [tokens, groupers]

theorem rightParen_mem_tokens (v : Vocabulary) : .rightParen ∈ v.tokens := by
  simp [tokens, groupers]

/-- A token of the vocabulary is an operand, an operator or a parenthesis. -/
theorem mem_tokens_cases {t : Token} (h : t ∈ v.tokens) :
    t ∈ v.operands ∨ (∃ c, t = v.operator c) ∨ t = .leftParen ∨ t = .rightParen := by
  simp only [tokens, groupers, List.mem_append, List.mem_cons, List.not_mem_nil, or_false] at h
  rcases h with (h | h) | h | h
  · exact .inl h
  · obtain ⟨c, -, rfl⟩ := List.mem_map.mp h
    exact .inr (.inl ⟨c, rfl⟩)
  · exact .inr (.inr (.inl h))
  · exact .inr (.inr (.inr h))

theorem operand_tag {t : Token} (h : t ∈ v.operands) : t.tag = .operand := by
  rcases List.mem_append.mp h with h | h
  · obtain ⟨n, -, rfl⟩ := List.mem_map.mp h; rfl
  · obtain ⟨c, -, rfl⟩ := List.mem_map.mp h; rfl

/-- An operand of the vocabulary without a value of its own is a free variable. -/
theorem mem_freeVariables {t : Token} (h : t ∈ v.operands) (hval : t.value = none) :
    t.name ∈ v.freeVariables := by
  rcases List.mem_append.mp h with h | h
  · obtain ⟨n, hn, rfl⟩ := List.mem_map.mp h
    exact hn
  · obtain ⟨c, -, rfl⟩ := List.mem_map.mp h
    cases hval

/-- A token of the vocabulary that is tagged as an operand is one. -/
theorem mem_operands_of_tag {t : Token} (h : t ∈ v.tokens) (htag : t.tag = .operand) :
    t ∈ v.operands := by
  rcases mem_tokens_cases h with hop | ⟨c, rfl⟩ | rfl | rfl
  · exact hop
  · cases htag
  · cases htag
  · cases htag

/-- An operand is found under its name. -/
theorem operand?_iff (hv : v.Ranked) {n : Text} {t : Token} :
    v.operand? n = some t ↔ t ∈ v.operands ∧ t.name = n := by
  rw [operand?, Option.filter_eq_some_iff]
  constructor
  · rintro ⟨hfind, hoperand⟩
    exact ⟨mem_operands_of_tag (mem_of_find? hfind) (by simpa [Token.isOperand] using hoperand),
      name_of_find? hfind⟩
  · rintro ⟨hop, rfl⟩
    exact ⟨hv.find?_name (operand_mem_tokens hop), by simp [Token.isOperand, operand_tag hop]⟩

/-- An operand without a value of its own has the name of a free variable. -/
theorem name_mem_freeVariables {t : Token} (htag : t.tag = .operand) (hdef : v.defines t = true)
    (hval : (v.canonicalToken t).value = none) : t.name ∈ v.freeVariables := by
  have hop := mem_operands_of_tag (canonicalToken_mem hdef) ((canonicalToken_tag v t).trans htag)
  exact canonicalToken_name v t ▸ mem_freeVariables hop hval

theorem isFree_of_value_none {t : Token} (htag : t.tag = .operand) (hdef : v.defines t = true)
    (hval : (v.canonicalToken t).value = none) : v.isFree t = true := by
  simp [isFree, Token.isOperand, htag, name_mem_freeVariables htag hdef hval]

/-- The canonical token of a free variable is the variable of its name. -/
theorem canonicalToken_of_isFree {t : Token} (h : v.isFree t = true) :
    v.canonicalToken t = .variable t.name := by
  obtain ⟨hop, hname⟩ := Bool.and_eq_true_iff.mp h
  have hsome : (v.freeVariables.find? fun n => n == t.name).isSome = true :=
    List.find?_isSome.mpr ⟨t.name, List.contains_iff_mem.mp hname, beq_self_eq_true t.name⟩
  obtain ⟨n, hn⟩ := Option.isSome_iff_exists.mp hsome
  have hfound : (n == t.name) = true := List.find?_some (p := fun m => m == t.name) hn
  have hfirst : (v.freeVariables.map Token.variable).find? (fun u => u.name == t.name) =
      some (.variable t.name) := by
    rw [List.find?_map]
    exact congrArg (Option.map Token.variable) (beq_iff_eq.mp hfound ▸ hn)
  have hfind : v.find? t.name = some (.variable t.name) := by
    simp only [find?, tokens, operands, List.append_assoc]
    rw [List.find?_append, hfirst]
    rfl
  rw [canonicalToken, hfind]
  exact if_pos (beq_iff_eq.mp hop).symm

@[simp] theorem operator_tag (v : Vocabulary) (c : Connective) : (v.operator c).tag = .operator :=
  rfl

@[simp] theorem operator_name (v : Vocabulary) (c : Connective) : (v.operator c).name = c.name :=
  rfl

end Vocabulary

@[simp] theorem Connective.ofName?_name (c : Connective) : ofName? c.name = some c := by
  cases c <;> decide

@[simp] theorem Token.leftParen_tag : Token.leftParen.tag = .leftParen := rfl

@[simp] theorem Token.rightParen_tag : Token.rightParen.tag = .rightParen := rfl

end InfixLogic
