import InfixLogic.Proofs.Transport

/- What a document keeps of a token.

   The object of a token holds its type and its payload: the name of an operand, the symbol of an
   operator, and nothing of a parenthesis. So a document is loaded as the tokens of the vocabulary
   that have these types and payloads (`Conveys`), and where there is no such token, as an unknown
   token (`load_conveyed`).

   A token of the vocabulary conveys itself. An operand from outside conveys nothing, since its
   payload is its name. But a parenthesis of another name conveys the vocabulary's, and an operator
   of another name conveys the connective whose symbol it has. These are `Disguised`, and they alone
   come back as tokens that they are not (`transport_by_payload`). -/

namespace InfixLogic

/-- What the object of a token holds beside its type. -/
def Token.payload (t : Token) : Option Text :=
  match t.tag with
  | .operand => some t.name
  | .operator => t.symbol
  | .leftParen => none
  | .rightParen => none

theorem Token.payload_of_paren {t : Token} (h : t.tag = .leftParen ∨ t.tag = .rightParen) :
    t.payload = none := by
  rcases h with h | h <;> rw [payload, h]

theorem Connective.symbol_injective {c c' : Connective} (h : c.symbol = c'.symbol) : c = c' := by
  revert h
  cases c <;> cases c' <;> decide

namespace Vocabulary

variable {v : Vocabulary} {t u w : Token} {ts us : List Token}

/-- Of two tokens the second is the vocabulary's with the tag and the payload of the first. -/
structure Conveys (v : Vocabulary) (t u : Token) : Prop where
  mem : u ∈ v.tokens
  tag : u.tag = t.tag
  payload : u.payload = (v.canonicalToken t).payload

/-- A token outside of the vocabulary that has the tag and the payload of one inside: a parenthesis,
or an operator with the symbol of a connective. -/
structure Disguised (v : Vocabulary) (t : Token) : Prop where
  outside : v.defines t = false
  payload : t.tag = .leftParen ∨ t.tag = .rightParen ∨
    t.tag = .operator ∧ ∃ c : Connective, t.symbol = some c.symbol

/-! ## What is conveyed -/

theorem operator_of_tag (h : t ∈ v.tokens) (htag : t.tag = .operator) :
    ∃ c, t = v.operator c := by
  rcases mem_tokens_cases h with hop | hc | rfl | rfl
  · cases (operand_tag hop).symm.trans htag
  · exact hc
  · cases htag
  · cases htag

theorem grouper_tag {p : Token} (hp : p ∈ groupers) : p.tag = .leftParen ∨ p.tag = .rightParen := by
  revert p
  decide

/-- A parenthesis is known by its tag. -/
theorem eq_grouper_of_tag {p : Token} (hp : p ∈ groupers) (h : t ∈ v.tokens)
    (htag : t.tag = p.tag) : t = p := by
  have hdistinct : ∀ a ∈ groupers, ∀ b ∈ groupers, a.tag = b.tag → a = b := by decide
  have hparen := htag ▸ grouper_tag hp
  rcases mem_tokens_cases h with hop | ⟨c, rfl⟩ | rfl | rfl
  · simp [operand_tag hop] at hparen
  · simp at hparen
  · exact hdistinct _ (by decide) p hp htag
  · exact hdistinct _ (by decide) p hp htag

theorem conveys_iff_of_operand (htag : t.tag = .operand) :
    v.Conveys t u ↔ u ∈ v.operands ∧ u.name = t.name := by
  have hpayload : (v.canonicalToken t).payload = some t.name := by simp [Token.payload, htag]
  constructor
  · intro h
    have hu := h.tag.trans htag
    have hname := h.payload.trans hpayload
    rw [Token.payload, hu] at hname
    exact ⟨mem_operands_of_tag h.mem hu, Option.some.inj hname⟩
  · rintro ⟨hop, hname⟩
    have hu := operand_tag hop
    exact ⟨operand_mem_tokens hop, hu.trans htag.symm, by rw [hpayload, Token.payload, hu, hname]⟩

theorem conveys_iff_of_operator (htag : t.tag = .operator) :
    v.Conveys t u ↔ ∃ c, u = v.operator c ∧ (v.canonicalToken t).symbol = some c.symbol := by
  have hpayload : (v.canonicalToken t).payload = (v.canonicalToken t).symbol := by
    simp [Token.payload, htag]
  constructor
  · intro h
    obtain ⟨c, rfl⟩ := operator_of_tag h.mem (h.tag.trans htag)
    exact ⟨c, rfl, hpayload.symm.trans h.payload.symm⟩
  · rintro ⟨c, rfl, hsymbol⟩
    exact ⟨v.operator_mem_tokens c, htag.symm, (hpayload.trans hsymbol).symm⟩

theorem conveys_iff_of_grouper {p : Token} (hp : p ∈ groupers) (htag : t.tag = p.tag) :
    v.Conveys t u ↔ u = p := by
  constructor
  · exact fun h => eq_grouper_of_tag hp h.mem (h.tag.trans htag)
  · rintro rfl
    have hparen := grouper_tag hp
    have hown : u.payload = none := Token.payload_of_paren hparen
    have hcanonical : (v.canonicalToken t).payload = none :=
      Token.payload_of_paren (by rwa [canonicalToken_tag, htag])
    exact ⟨List.mem_append_right _ hp, htag.symm, hown.trans hcanonical.symm⟩

theorem conveys_iff_of_leftParen (htag : t.tag = .leftParen) : v.Conveys t u ↔ u = .leftParen :=
  conveys_iff_of_grouper (by decide) htag

theorem conveys_iff_of_rightParen (htag : t.tag = .rightParen) : v.Conveys t u ↔ u = .rightParen :=
  conveys_iff_of_grouper (by decide) htag

/-- Tag and payload tell the tokens of a vocabulary apart. -/
theorem Conveys.unique (hv : v.Ranked) (hu : v.Conveys t u) (hw : v.Conveys t w) : u = w := by
  cases htag : t.tag with
  | operand =>
    have hname := ((conveys_iff_of_operand htag).mp hu).2.trans
      ((conveys_iff_of_operand htag).mp hw).2.symm
    exact List.inj_on_of_nodup_map hv.names hu.mem hw.mem hname
  | operator =>
    obtain ⟨c, rfl, hc⟩ := (conveys_iff_of_operator htag).mp hu
    obtain ⟨c', rfl, hc'⟩ := (conveys_iff_of_operator htag).mp hw
    exact congrArg v.operator (Connective.symbol_injective (Option.some.inj (hc.symm.trans hc')))
  | leftParen =>
    exact ((conveys_iff_of_leftParen htag).mp hu).trans ((conveys_iff_of_leftParen htag).mp hw).symm
  | rightParen =>
    exact ((conveys_iff_of_rightParen htag).mp hu).trans
      ((conveys_iff_of_rightParen htag).mp hw).symm

theorem conveys_canonicalToken (h : v.defines t = true) : v.Conveys t (v.canonicalToken t) :=
  ⟨canonicalToken_mem h, canonicalToken_tag v t, rfl⟩

/-- A token conveys its equal exactly if it is in the vocabulary. -/
theorem Conveys.identity_iff (hv : v.Ranked) (h : v.Conveys t u) :
    t.identity = u.identity ↔ v.defines t = true := by
  constructor
  · intro hidentity
    rw [defines_congr hidentity]
    exact hv.defines_of_mem h.mem
  · intro hdefined
    rw [h.unique hv (conveys_canonicalToken hdefined), canonicalToken_identity]

/-- The tokens that convey one are those of the vocabulary and the disguised ones. -/
theorem exists_conveys_iff (hv : v.Ranked) :
    (∃ u, v.Conveys t u) ↔ v.defines t = true ∨ v.Disguised t := by
  cases hdefined : v.defines t with
  | true => exact iff_of_true ⟨_, conveys_canonicalToken hdefined⟩ (.inl rfl)
  | false =>
    have hcanonical := canonicalToken_of_not_defines hdefined
    constructor
    · rintro ⟨u, h⟩
      refine .inr ⟨hdefined, ?_⟩
      cases htag : t.tag with
      | operand =>
        have hname := ((conveys_iff_of_operand htag).mp h).2
        have hidentity : t.identity = u.identity := Prod.ext h.tag.symm hname.symm
        cases hdefined.symm.trans ((h.identity_iff hv).mp hidentity)
      | operator =>
        obtain ⟨c, -, hsymbol⟩ := (conveys_iff_of_operator htag).mp h
        exact .inr (.inr ⟨rfl, c, hcanonical ▸ hsymbol⟩)
      | leftParen => exact .inl rfl
      | rightParen => exact .inr (.inl rfl)
    · rintro (h | ⟨-, htag | htag | ⟨htag, c, hsymbol⟩⟩)
      · cases h
      · exact ⟨_, (conveys_iff_of_leftParen htag).mpr rfl⟩
      · exact ⟨_, (conveys_iff_of_rightParen htag).mpr rfl⟩
      · exact ⟨_, (conveys_iff_of_operator htag).mpr ⟨c, rfl, hcanonical.symm ▸ hsymbol⟩⟩

/-! ## Objects as they are read back -/

/-- The object of a token as it is read back. -/
def received (v : Vocabulary) (t : Token) : Value :=
  let t := v.canonicalToken t
  match t.tag with
  | .operand => .object [("type", .str "VAR"), ("value", .str (Json.echo t.name))]
  | .operator =>
    .object [("type", .str "OP"), ("value", (t.symbol.map fun s => .str (Json.echo s)).getD .null)]
  | .leftParen => .object [("type", .str "LPAREN")]
  | .rightParen => .object [("type", .str "RPAREN")]

theorem reads_valued {d : Nat} {tag : Text} {data data' : Value} (htag : Json.Verbatim tag)
    (h : Json.Reads d data data') :
    Json.Reads (d + 1) (.object [("type", .str tag), ("value", data)])
      (.object [("type", .str tag), ("value", data')]) := by
  have htype : Json.Verbatim "type" := by decide
  have hvalue : Json.Verbatim "value" := by decide
  have hnames : (["type", "value"] : List Text).Nodup := by decide
  exact .object (.cons ⟨rfl, htype, (Json.Plain.str htag).reads⟩ (.cons ⟨rfl, hvalue, h⟩ .nil))
    hnames

theorem reads_encode (v : Vocabulary) (t : Token) (d : Nat) :
    Json.Reads (d + 1) (v.encode t) (v.received t) := by
  unfold encode received
  dsimp only
  cases (v.canonicalToken t).tag with
  | operand => exact reads_valued (by decide) (.str _)
  | operator =>
    refine reads_valued (by decide) ?_
    cases (v.canonicalToken t).symbol with
    | none => exact .null
    | some s => exact .str s
  | leftParen => exact (plain_bare (by decide)).reads
  | rightParen => exact (plain_bare (by decide)).reads

/-- The document of tokens is read as the list of what is received of them. -/
theorem read_received (v : Vocabulary) (ts : List Token) :
    Json.read (Json.write (.list (ts.map v.encode))) = .ok (.list (ts.map v.received)) := by
  have hitems : List.Forall₂ (Json.Reads (Json.maxDepth - 1)) (ts.map v.encode)
      (ts.map v.received) := by
    rw [List.forall₂_map_left_iff, List.forall₂_map_right_iff, List.forall₂_same]
    exact fun t _ => v.reads_encode t _
  exact (Json.Reads.list hitems).read

theorem decode_received (v : Vocabulary) (t : Token) :
    v.decode (v.received t) =
      match t.tag with
      | .operand => search v.operand? .noOperand (.str (Json.echo t.name))
      | .operator => search v.operatorOfSymbol? .noOperator
          (((v.canonicalToken t).symbol.map fun s => .str (Json.echo s)).getD .null)
      | .leftParen => .ok .leftParen
      | .rightParen => .ok .rightParen := by
  have htag := canonicalToken_tag v t
  have hname := canonicalToken_name v t
  rw [← htag, ← hname]
  unfold received
  dsimp only
  cases (v.canonicalToken t).tag <;> rfl

theorem verbatim_symbol (c : Connective) : Json.Verbatim c.symbol := by cases c <;> decide

/-- What is received of a token is decoded to the token that it conveys. -/
theorem decode_received_ok_iff (hv : v.Ranked) (hlegible : v.Legible) :
    v.decode (v.received t) = .ok u ↔ v.Conveys t u := by
  rw [decode_received]
  cases htag : t.tag with
  | operand =>
    rw [conveys_iff_of_operand htag, search_ok_iff]
    simp only [Value.str.injEq, exists_eq_left', operand?_iff hv]
    exact and_congr_right fun hop => by rw [eq_comm, Json.echo_eq_iff (hlegible u hop), eq_comm]
  | operator =>
    rw [conveys_iff_of_operator htag, search_ok_iff]
    cases (v.canonicalToken t).symbol with
    | none => simp
    | some s =>
      simp only [Option.map_some, Option.getD_some, Value.str.injEq, exists_eq_left',
        operatorOfSymbol?_iff, Option.some.injEq]
      exact exists_congr fun c => and_congr_right fun _ => by
        rw [eq_comm, Json.echo_eq_iff (verbatim_symbol c)]
  | leftParen => rw [conveys_iff_of_leftParen htag, Except.ok.injEq, eq_comm]
  | rightParen => rw [conveys_iff_of_rightParen htag, Except.ok.injEq, eq_comm]

/-- Whatever is received of a token can be looked up. -/
theorem decode_received_ne_noKey (v : Vocabulary) (t : Token) :
    v.decode (v.received t) ≠ .error .noKey := by
  rw [decode_received]
  cases t.tag with
  | operand => exact search_noKey_iff.not.mpr nofun
  | operator =>
    refine search_noKey_iff.not.mpr ?_
    cases (v.canonicalToken t).symbol <;> exact nofun
  | leftParen => exact nofun
  | rightParen => exact nofun

/-! ## Documents -/

/-- The document of tokens from anywhere is loaded as the tokens that they convey. -/
theorem load_conveyed (hv : v.Ranked) (hlegible : v.Legible) (ts : List Token) :
    Decoded (v.load (Json.write (.list (ts.map v.encode)))) (List.Forall₂ v.Conveys ts) False := by
  rw [load_of_read (v.read_received ts)]
  refine .of_error (fun us => ?_) (iff_of_false (fun h => ?_) id) fun _ => decodeList_error
  · rw [decodeList, mapM_ok_iff, List.forall₂_map_left_iff]
    simp only [decode_received_ok_iff hv hlegible]
  · rw [decodeList, mapM_error_iff] at h
    obtain ⟨before, d, after, hobjects, -, hd⟩ := h
    have hmem : d ∈ ts.map v.received := by simp [hobjects]
    obtain ⟨t, -, rfl⟩ := List.mem_map.mp hmem
    exact v.decode_received_ne_noKey t hd

/-- The lists that convey one are those of tokens that are in the vocabulary or disguised. -/
theorem exists_conveyed_iff (hv : v.Ranked) :
    (∃ us, List.Forall₂ v.Conveys ts us) ↔ ∀ t ∈ ts, v.defines t = true ∨ v.Disguised t := by
  simp only [← exists_conveys_iff hv]
  induction ts with
  | nil => exact iff_of_true ⟨[], .nil⟩ (by simp)
  | cons t ts ih =>
    rw [List.forall_mem_cons, ← ih]
    constructor
    · rintro ⟨_, hus⟩
      obtain ⟨u, us, hu, hus, -⟩ := List.forall₂_cons_left_iff.mp hus
      exact ⟨⟨u, hu⟩, us, hus⟩
    · rintro ⟨⟨u, hu⟩, us, hus⟩
      exact ⟨u :: us, .cons hu hus⟩

/-- A list of tokens conveys its equal exactly if all of them are in the vocabulary. -/
theorem conveyed_identity_iff (hv : v.Ranked) (h : List.Forall₂ v.Conveys ts us) :
    List.Forall₂ (fun t u => t.identity = u.identity) ts us ↔ ∀ t ∈ ts, v.defines t = true := by
  induction h with
  | nil => simp
  | cons hconveys _ ih =>
    rw [List.forall₂_cons, List.forall_mem_cons, hconveys.identity_iff hv, ih]

end Vocabulary

open Vocabulary (standard)

/-- A document is written of any tokens. It cannot be loaded, for a token that is unknown, if one of
them is outside of the vocabulary and not disguised. Otherwise it is loaded as the vocabulary's
tokens of the same tags and payloads, and these are equal to the given ones exactly if all those are
in the vocabulary. -/
theorem transport_by_payload (ts : List Token) :
    ∃ document, standard.dump (Token.items ts) = .ok document ∧
      ((∃ t ∈ ts, standard.defines t = false ∧ ¬ standard.Disguised t) →
        ∃ f : Fault, standard.load document = .error (.fault f) ∧ f.kind = .unknownToken) ∧
      ((∀ t ∈ ts, standard.defines t = true ∨ standard.Disguised t) →
        ∃ us, standard.load document = .ok us ∧ List.Forall₂ standard.Conveys ts us) ∧
      ∀ us, standard.load document = .ok us →
        (List.Forall₂ (fun t u => t.identity = u.identity) ts us ↔
          ∀ t ∈ ts, standard.defines t = true) := by
  have hranked := Vocabulary.standard_conventional.toRanked
  have hload := Vocabulary.load_conveyed hranked Vocabulary.standard_legible ts
  refine ⟨_, standard.dump_items ts, ?_, fun h => ?_, fun us hus => ?_⟩
  · rintro ⟨t, ht, houtside, hplain⟩
    refine hload.unknown id fun us hus => ?_
    rcases (Vocabulary.exists_conveyed_iff hranked).mp ⟨us, hus⟩ t ht with hdefined | hdisguised
    · cases houtside.symm.trans hdefined
    · exact hplain hdisguised
  · obtain ⟨us, hus⟩ := (Vocabulary.exists_conveyed_iff hranked).mpr h
    exact ⟨us, (hload.ok us).mpr hus, hus⟩
  · exact Vocabulary.conveyed_identity_iff hranked ((hload.ok us).mp hus)

/-- The cases of an operand from outside, and of a parenthesis of another name behind which there is
a NOT with the symbol of OR. The symbol of a NOT does not count. -/
theorem transport_by_payload_mixed :
    (∃ document f, standard.dump (Token.items [.leftParen, .plain .operand "D"]) = .ok document ∧
      standard.load document = .error (.fault f) ∧ f.kind = .unknownToken) ∧
    ∃ document us, standard.dump (Token.items [.plain .leftParen "x",
        ⟨.operator, "NOT", some "||", none, 2, 0, false⟩]) = .ok document ∧
      standard.load document = .ok us ∧
      List.Forall₂ standard.Conveys [.plain .leftParen "x",
        ⟨.operator, "NOT", some "||", none, 2, 0, false⟩] us ∧
      ¬ List.Forall₂ (fun t u : Token => t.identity = u.identity) [.plain .leftParen "x",
        ⟨.operator, "NOT", some "||", none, 2, 0, false⟩] us := by
  constructor
  · obtain ⟨document, hdump, hunknown, -⟩ := transport_by_payload [.leftParen, .plain .operand "D"]
    have hplain : ¬ standard.Disguised (.plain .operand "D") := fun h => by
      simpa [Token.plain] using h.payload
    obtain ⟨f, hload, hkind⟩ := hunknown ⟨.plain .operand "D", by decide, by decide, hplain⟩
    exact ⟨document, f, hdump, hload, hkind⟩
  · obtain ⟨document, hdump, -, hconveyed, hequal⟩ := transport_by_payload
      [.plain .leftParen "x", ⟨.operator, "NOT", some "||", none, 2, 0, false⟩]
    have hparen : standard.Disguised (.plain .leftParen "x") := ⟨by decide, .inl rfl⟩
    obtain ⟨us, hload, hus⟩ := hconveyed (List.forall_mem_cons.mpr
      ⟨.inr hparen, List.forall_mem_singleton.mpr (.inl (by decide))⟩)
    exact ⟨document, us, hdump, hload, hus, (hequal us hload).not.mpr (by decide)⟩

/-- An operator of another name that has the symbol of AND is dumped and loaded as AND. -/
theorem forged_symbol_loaded :
    standard.defines ⟨.operator, "XOR", some "&&", none, 2, 2, false⟩ = false ∧
      standard.dump (Token.items [⟨.operator, "XOR", some "&&", none, 2, 2, false⟩]) =
        .ok "[\x7b\"type\": \"OP\", \"value\": \"&&\"\x7d]" ∧
      standard.load "[\x7b\"type\": \"OP\", \"value\": \"&&\"\x7d]" =
        .ok [standard.operator .and] ∧
      Token.identity ⟨.operator, "XOR", some "&&", none, 2, 2, false⟩ ≠
        (standard.operator .and).identity := by
  refine ⟨by decide, ?_, by decide +kernel, by decide⟩
  rw [standard.dump_items]
  rfl

end InfixLogic
