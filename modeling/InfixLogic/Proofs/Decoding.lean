import InfixLogic.CommandLine.Run
import InfixLogic.Proofs.Canonical
import InfixLogic.Proofs.Document

/- Tokens out of JSON values.

   `Tells v data t` says that a value has the members of the object that `t` is encoded as. A value
   is decoded to a token exactly if it tells that token (`decode_ok_iff`); other members play no
   part.

   A value of another shape is an unknown token, with one exception: the value of an operand or
   operator is looked up in a table, and lists and objects cannot be looked up. The type of a token
   is only compared, so that a list in its place does no harm. `Value.Unsearchable` is the
   exception, and `Decoded` says that there is no other, for a value and for a document
   (`documents_classified`). -/

namespace InfixLogic

/-- An operand or operator whose value is a list or an object. -/
structure Value.Unsearchable (data : Value) : Prop where
  type : data.member? "type" = some (.str "VAR") ∨ data.member? "type" = some (.str "OP")
  value : ∃ w, data.member? "value" = some w ∧ w.isKey = false

/-- How a decoding ends: with what has been told, with no answer where it is stuck, and otherwise
with an unknown token. -/
structure Decoded {α : Type} (x : Except Failure α) (Told : α → Prop) (Stuck : Prop) :
    Prop where
  ok : ∀ a, x = .ok a ↔ Told a
  noKey : x = .error .noKey ↔ Stuck
  unknown : ¬ Stuck → (∀ a, ¬ Told a) →
    ∃ f : Fault, x = .error (.fault f) ∧ f.kind = .unknownToken

theorem Decoded.of_error {α : Type} {x : Except Failure α} {Told : α → Prop} {Stuck : Prop}
    (hok : ∀ a, x = .ok a ↔ Told a) (hnoKey : x = .error .noKey ↔ Stuck)
    (herror : ∀ e, x = .error e →
      e = .noKey ∨ ∃ f : Fault, e = .fault f ∧ f.kind = .unknownToken) :
    Decoded x Told Stuck where
  ok := hok
  noKey := hnoKey
  unknown := by
    intro hfree hnone
    cases x with
    | ok a => exact absurd ((hok a).mp rfl) (hnone a)
    | error e =>
      rcases herror e rfl with rfl | ⟨f, rfl, hkind⟩
      · exact absurd (hnoKey.mp rfl) hfree
      · exact ⟨f, rfl, hkind⟩

namespace Vocabulary

variable {v : Vocabulary} {data : Value} {t : Token}

/-! ## Looking up -/

/-- The token that a table has for a value. -/
def search (table : Text → Option Token) (unknown : Text → Fault) (w : Value) :
    Except Failure Token :=
  if !w.isKey then .error .noKey
  else
    let found :=
      match w with
      | .str n => table n
      | _ => none
    match found with
    | some t => .ok t
    | none => .error (.fault (unknown w.written))

theorem operandOf_eq (v : Vocabulary) (w : Value) :
    v.operandOf w = search v.operand? .noOperand w := rfl

theorem operatorOfSymbol_eq (v : Vocabulary) (w : Value) :
    v.operatorOfSymbol w = search v.operatorOfSymbol? .noOperator w := rfl

section
variable {table : Text → Option Token} {unknown : Text → Fault} {w : Value}

theorem search_ok_iff : search table unknown w = .ok t ↔ ∃ n, w = .str n ∧ table n = some t := by
  cases w with
  | str n => cases h : table n <;> simp [search, Value.isKey, h]
  | _ => simp [search, Value.isKey]

theorem search_noKey_iff : search table unknown w = .error .noKey ↔ w.isKey = false := by
  cases w with
  | str n => cases h : table n <;> simp [search, Value.isKey, h]
  | _ => simp [search, Value.isKey]

theorem search_error {e : Failure} (h : search table unknown w = .error e) :
    e = .noKey ∨ e = .fault (unknown w.written) := by
  cases w with
  | str n => cases hn : table n <;> simp_all [search, Value.isKey]
  | _ => simp_all [search, Value.isKey]

end

/-! ## Tokens as objects -/

/-- A value has the members of the object that a token is encoded as. -/
structure Tells (v : Vocabulary) (data : Value) (t : Token) : Prop where
  type : data.member? "type" = (v.encode t).member? "type"
  value : ∀ w, (v.encode t).member? "value" = some w → data.member? "value" = some w

theorem tells_valued_iff {tag : Text} {w : Value}
    (h : v.encode t = .object [("type", .str tag), ("value", w)]) :
    v.Tells data t ↔ data.member? "type" = some (.str tag) ∧ data.member? "value" = some w := by
  have htype : (v.encode t).member? "type" = some (.str tag) := by
    rw [h]
    rfl
  have hvalue : (v.encode t).member? "value" = some w := by
    rw [h]
    rfl
  refine ⟨fun ht => ⟨ht.type.trans htype, ht.value w hvalue⟩, fun ht => ⟨ht.1.trans htype.symm, ?_⟩⟩
  intro w' hw'
  rw [← hw', hvalue]
  exact ht.2

theorem tells_bare_iff {tag : Text} (h : v.encode t = .object [("type", .str tag)]) :
    v.Tells data t ↔ data.member? "type" = some (.str tag) := by
  have htype : (v.encode t).member? "type" = some (.str tag) := by
    rw [h]
    rfl
  refine ⟨fun ht => ht.type.trans htype, fun ht => ⟨ht.trans htype.symm, ?_⟩⟩
  intro w hw
  rw [h] at hw
  cases hw

theorem encode_operand (hv : v.Ranked) (h : t ∈ v.operands) :
    v.encode t = .object [("type", .str "VAR"), ("value", .str t.name)] := by
  rw [encode, hv.canonicalToken_of_mem (operand_mem_tokens h)]
  simp only [operand_tag h]

theorem encode_operator (hv : v.Ranked) (c : Connective) :
    v.encode (v.operator c) = .object [("type", .str "OP"), ("value", .str c.symbol)] := by
  rw [encode, hv.canonicalToken_of_mem (v.operator_mem_tokens c)]
  rfl

theorem encode_leftParen (v : Vocabulary) :
    v.encode .leftParen = .object [("type", .str "LPAREN")] := by
  simp only [encode, canonicalToken_tag, Token.leftParen_tag]

theorem encode_rightParen (v : Vocabulary) :
    v.encode .rightParen = .object [("type", .str "RPAREN")] := by
  simp only [encode, canonicalToken_tag, Token.rightParen_tag]

/-! ## Decoding a value -/

theorem decode_of_type {tag : Text} (h : data.member? "type" = some (.str tag)) :
    v.decode data =
      if tag = "VAR" then search v.operand? .noOperand ((data.member? "value").getD .null)
      else if tag = "OP" then
        search v.operatorOfSymbol? .noOperator ((data.member? "value").getD .null)
      else if tag = "LPAREN" then .ok .leftParen
      else if tag = "RPAREN" then .ok .rightParen
      else .error (.fault (.unknownType (Value.str tag).written)) := by
  simp only [decode, h, operandOf_eq, operatorOfSymbol_eq]

/-- A value without one of the four types is an unknown token. -/
theorem decode_cases (v : Vocabulary) (data : Value) :
    (data.member? "type" = some (.str "VAR") ∧
        v.decode data = search v.operand? .noOperand ((data.member? "value").getD .null)) ∨
      (data.member? "type" = some (.str "OP") ∧
        v.decode data =
          search v.operatorOfSymbol? .noOperator ((data.member? "value").getD .null)) ∨
      (data.member? "type" = some (.str "LPAREN") ∧ v.decode data = .ok .leftParen) ∨
      (data.member? "type" = some (.str "RPAREN") ∧ v.decode data = .ok .rightParen) ∨
      ∃ f : Fault, v.decode data = .error (.fault f) ∧ f.kind = .unknownToken := by
  cases htype : data.member? "type" with
  | none => exact .inr (.inr (.inr (.inr ⟨.malformed data.written, by rw [decode, htype], rfl⟩)))
  | some type =>
    cases type with
    | str tag =>
      have hdecode := decode_of_type (v := v) htype
      split at hdecode
      · next h => exact .inl ⟨by rw [h], hdecode⟩
      split at hdecode
      · next h => exact .inr (.inl ⟨by rw [h], hdecode⟩)
      split at hdecode
      · next h => exact .inr (.inr (.inl ⟨by rw [h], hdecode⟩))
      split at hdecode
      · next h => exact .inr (.inr (.inr (.inl ⟨by rw [h], hdecode⟩)))
      · exact .inr (.inr (.inr (.inr ⟨_, hdecode, rfl⟩)))
    | _ => exact .inr (.inr (.inr (.inr ⟨.unknownType _, by rw [decode, htype], rfl⟩)))

/-- An operator is found under its symbol. -/
theorem operatorOfSymbol?_iff {n : Text} :
    v.operatorOfSymbol? n = some t ↔ ∃ c : Connective, t = v.operator c ∧ c.symbol = n := by
  constructor
  · intro h
    obtain ⟨c, -, rfl⟩ := List.mem_map.mp (List.mem_of_find?_eq_some h)
    have hsymbol := List.find?_some h
    exact ⟨c, rfl, Option.some.inj (beq_iff_eq.mp hsymbol)⟩
  · rintro ⟨c, rfl, rfl⟩
    cases c <;> rfl

/-- A value is decoded to the tokens of the vocabulary that it tells. -/
theorem decode_ok_iff (hv : v.Ranked) : v.decode data = .ok t ↔ t ∈ v.tokens ∧ v.Tells data t := by
  constructor
  · intro h
    rcases v.decode_cases data with ⟨htype, hdecode⟩ | ⟨htype, hdecode⟩ | ⟨htype, hdecode⟩ |
      ⟨htype, hdecode⟩ | ⟨f, hdecode, -⟩
    · obtain ⟨n, hvalue, hn⟩ := search_ok_iff.mp (hdecode.symm.trans h)
      obtain ⟨hop, rfl⟩ := (operand?_iff hv).mp hn
      refine ⟨operand_mem_tokens hop, (tells_valued_iff (encode_operand hv hop)).mpr ⟨htype, ?_⟩⟩
      exact (Option.getD_eq_iff.mp hvalue).resolve_right (by simp)
    · obtain ⟨n, hvalue, hn⟩ := search_ok_iff.mp (hdecode.symm.trans h)
      obtain ⟨c, rfl, rfl⟩ := operatorOfSymbol?_iff.mp hn
      refine ⟨v.operator_mem_tokens c, (tells_valued_iff (encode_operator hv c)).mpr ⟨htype, ?_⟩⟩
      exact (Option.getD_eq_iff.mp hvalue).resolve_right (by simp)
    · obtain rfl := Except.ok.inj (hdecode.symm.trans h)
      exact ⟨v.leftParen_mem_tokens, (tells_bare_iff v.encode_leftParen).mpr htype⟩
    · obtain rfl := Except.ok.inj (hdecode.symm.trans h)
      exact ⟨v.rightParen_mem_tokens, (tells_bare_iff v.encode_rightParen).mpr htype⟩
    · cases hdecode.symm.trans h
  · rintro ⟨hmem, htells⟩
    rcases mem_tokens_cases hmem with hop | ⟨c, rfl⟩ | rfl | rfl
    · obtain ⟨htype, hvalue⟩ := (tells_valued_iff (encode_operand hv hop)).mp htells
      rw [decode_of_type htype, if_pos rfl, hvalue]
      exact search_ok_iff.mpr ⟨t.name, rfl, (operand?_iff hv).mpr ⟨hop, rfl⟩⟩
    · obtain ⟨htype, hvalue⟩ := (tells_valued_iff (encode_operator hv c)).mp htells
      rw [decode_of_type htype, if_neg (by decide), if_pos rfl, hvalue]
      exact search_ok_iff.mpr ⟨c.symbol, rfl, operatorOfSymbol?_iff.mpr ⟨c, rfl, rfl⟩⟩
    · have htype := (tells_bare_iff v.encode_leftParen).mp htells
      rw [decode_of_type htype, if_neg (by decide), if_neg (by decide), if_pos rfl]
    · have htype := (tells_bare_iff v.encode_rightParen).mp htells
      rw [decode_of_type htype, if_neg (by decide), if_neg (by decide), if_neg (by decide),
        if_pos rfl]

theorem not_isKey_value_iff :
    ((data.member? "value").getD .null).isKey = false ↔
      ∃ w, data.member? "value" = some w ∧ w.isKey = false := by
  cases data.member? "value" <;> simp [Value.isKey]

theorem decode_noKey_iff : v.decode data = .error .noKey ↔ data.Unsearchable := by
  constructor
  · intro h
    rcases v.decode_cases data with ⟨htype, hdecode⟩ | ⟨htype, hdecode⟩ | ⟨-, hdecode⟩ |
      ⟨-, hdecode⟩ | ⟨f, hdecode, -⟩
    · exact ⟨.inl htype, not_isKey_value_iff.mp (search_noKey_iff.mp (hdecode.symm.trans h))⟩
    · exact ⟨.inr htype, not_isKey_value_iff.mp (search_noKey_iff.mp (hdecode.symm.trans h))⟩
    all_goals cases hdecode.symm.trans h
  · rintro ⟨htype | htype, hvalue⟩
    · rw [decode_of_type htype, if_pos rfl]
      exact search_noKey_iff.mpr (not_isKey_value_iff.mpr hvalue)
    · rw [decode_of_type htype, if_neg (by decide), if_pos rfl]
      exact search_noKey_iff.mpr (not_isKey_value_iff.mpr hvalue)

/-- A value that is not decoded is an unknown token, or it could not be looked up. -/
theorem decode_error {e : Failure} (h : v.decode data = .error e) :
    e = .noKey ∨ ∃ f : Fault, e = .fault f ∧ f.kind = .unknownToken := by
  rcases v.decode_cases data with ⟨-, hdecode⟩ | ⟨-, hdecode⟩ | ⟨-, hdecode⟩ | ⟨-, hdecode⟩ |
    ⟨f, hdecode, hkind⟩
  · exact (search_error (hdecode.symm.trans h)).imp_right fun he => ⟨_, he, rfl⟩
  · exact (search_error (hdecode.symm.trans h)).imp_right fun he => ⟨_, he, rfl⟩
  · cases hdecode.symm.trans h
  · cases hdecode.symm.trans h
  · exact .inr ⟨f, (Except.error.inj (hdecode.symm.trans h)).symm, hkind⟩

theorem decode_classified (hv : v.Ranked) (data : Value) :
    Decoded (v.decode data) (fun t => t ∈ v.tokens ∧ v.Tells data t) data.Unsearchable :=
  .of_error (fun _ => decode_ok_iff hv) decode_noKey_iff fun _ => decode_error

/-! ## Decoding a document -/

/-- The values that are in a list tell tokens, up to one that cannot be looked up. -/
def Obstructed (v : Vocabulary) (data : Value) : Prop :=
  ∃ before d after, data = .list (before ++ d :: after) ∧
    (∀ x ∈ before, ∃ t ∈ v.tokens, v.Tells x t) ∧ d.Unsearchable

theorem decodeList_ok_iff (hv : v.Ranked) {ts : List Token} :
    v.decodeList data = .ok ts ↔
      ∃ objects, data = .list objects ∧
        List.Forall₂ (fun d t => t ∈ v.tokens ∧ v.Tells d t) objects ts := by
  simp only [← decode_ok_iff hv, ← mapM_ok_iff]
  cases data <;> simp [decodeList]

theorem decodeList_noKey_iff (hv : v.Ranked) :
    v.decodeList data = .error .noKey ↔ v.Obstructed data := by
  simp only [Obstructed, ← decode_ok_iff hv, ← decode_noKey_iff (v := v)]
  cases data <;> simp [decodeList, mapM_error_iff]

theorem decodeList_error {e : Failure} (h : v.decodeList data = .error e) :
    e = .noKey ∨ ∃ f : Fault, e = .fault f ∧ f.kind = .unknownToken := by
  cases data with
  | list objects =>
    obtain ⟨-, d, -, -, -, hd⟩ := mapM_error_iff.mp h
    exact decode_error hd
  | _ => exact .inr ⟨.notList, (Except.error.inj h).symm, rfl⟩

theorem load_of_read {document : Text} (h : Json.read document = .ok data) :
    v.load document = v.decodeList data := by
  rw [load, h]

theorem load_classified (hv : v.Ranked) {document : Text} (h : Json.read document = .ok data) :
    Decoded (v.load document)
      (fun ts => ∃ objects, data = .list objects ∧
        List.Forall₂ (fun d t => t ∈ v.tokens ∧ v.Tells d t) objects ts)
      (v.Obstructed data) := by
  rw [load_of_read h]
  exact .of_error (fun _ => decodeList_ok_iff hv) (decodeList_noKey_iff hv)
    fun _ => decodeList_error

end Vocabulary

/-! ## Runs of the program -/

namespace CommandLine

/-- A request to evaluate the tokens of a file, which holds a document. -/
structure Request.LoadsFrom (r : Request) (folder : Folder) (document : Text) : Prop where
  palette : r.palette = false
  file : ∃ path, r.tokensFile = some path ∧ path ≠ [] ∧ folder.read path = .ok document

variable {v : Vocabulary} {folder : Folder} {r : Request} {document : Text}

theorem loadTokens_of_file (h : r.LoadsFrom folder document) :
    ∃ told, loadTokens v folder r = (told, loadDocument v document) := by
  obtain ⟨path, hfile, hne, hread⟩ := h.file
  obtain ⟨c, cs, rfl⟩ := List.exists_cons_of_ne_nil hne
  refine ⟨.note .info ("Loading tokens from " ++ (c :: cs)), ?_⟩
  rw [loadTokens, hfile]
  simp only [hread]

/-- A request to evaluate the tokens of a file turns to its assignments first and then to the
file. -/
theorem ending_of_file (h : r.LoadsFrom folder document) :
    (perform v folder r).2 =
      match inputs v r, loadDocument v document with
      | .error (.message _), _ => .status 2
      | .error (.cut e), _ => e
      | .ok _, .error (.message _) => .status 2
      | .ok _, .error (.cut e) => e
      | .ok values, .ok ts => (answer v folder r values (Token.items ts)).2 := by
  obtain ⟨told, htold⟩ := loadTokens_of_file (v := v) h
  obtain ⟨path, hfile, hne, -⟩ := h.file
  obtain ⟨c, cs, rfl⟩ := List.exists_cons_of_ne_nil hne
  have hasked : ((r.expression.getD []).isEmpty && (r.tokensFile.getD []).isEmpty) = false := by
    rw [hfile]
    exact Bool.and_false _
  unfold perform
  rw [h.palette, if_neg Bool.false_ne_true, hasked, if_neg Bool.false_ne_true, htold]
  cases inputs v r with
  | error e => cases e <;> rfl
  | ok values =>
    cases loadDocument v document with
    | error e => cases e <;> rfl
    | ok ts => rfl

/-- A run ends with the status for a file that is not understood, if the fault of its document is
not preceded by an assignment that cuts the run short. -/
theorem ending_of_fault {f : Fault} (h : r.LoadsFrom folder document)
    (hinputs : ∀ e, inputs v r ≠ .error (.cut e)) (hload : v.load document = .error (.fault f)) :
    (perform v folder r).2 = .status 2 := by
  rw [ending_of_file h, loadDocument, hload]
  cases hin : inputs v r with
  | ok values => rfl
  | error e =>
    cases e with
    | message m => rfl
    | cut e => exact absurd hin (hinputs e)

theorem ending_of_noKey {values : List (Text × Bool)} (h : r.LoadsFrom folder document)
    (hinputs : inputs v r = .ok values) (hload : v.load document = .error .noKey) :
    (perform v folder r).2 = .noKey := by
  rw [ending_of_file h, loadDocument, hload, hinputs]

end CommandLine

open Vocabulary (standard)

/-- A value is decoded to the token of the vocabulary that it tells. If it tells none it is an
unknown token, unless it is an operand or operator whose value is a list or an object. A document
gives the tokens that its values tell, one for each. If one of them tells none it is an unknown
token, with which the program ends with status 2, unless such an operand or operator is the first
of those. There the run is cut short. -/
theorem documents_classified (data : Value) :
    Decoded (standard.decode data) (fun t => t ∈ standard.tokens ∧ standard.Tells data t)
        data.Unsearchable ∧
      ∀ document : Text, Json.read document = .ok data →
        Decoded (standard.load document)
          (fun ts => ∃ objects, data = .list objects ∧
            List.Forall₂ (fun d t => t ∈ standard.tokens ∧ standard.Tells d t) objects ts)
          (standard.Obstructed data) ∧
        ∀ (folder : CommandLine.Folder) (r : CommandLine.Request), r.LoadsFrom folder document →
          (∀ f : Fault, standard.load document = .error (.fault f) →
            (∀ e, CommandLine.inputs standard r ≠ .error (.cut e)) →
              (CommandLine.perform standard folder r).2 = .status 2) ∧
          ∀ values, CommandLine.inputs standard r = .ok values → standard.Obstructed data →
            (CommandLine.perform standard folder r).2 = .noKey := by
  have hranked := Vocabulary.standard_conventional.toRanked
  refine ⟨Vocabulary.decode_classified hranked data, fun document hread => ?_⟩
  have hload := Vocabulary.load_classified hranked hread
  refine ⟨hload, fun folder r hfile => ⟨fun f hfault hinputs => ?_, fun values hinputs h => ?_⟩⟩
  · exact CommandLine.ending_of_fault hfile hinputs hfault
  · exact CommandLine.ending_of_noKey hfile hinputs (hload.noKey.mpr h)

/-- The cases of a list in the place of a name, in a value, in a document and in a run; of an
operand with a member too many; and of a file with a text in the place of the list of tokens. -/
theorem documents_classified_list :
    standard.decode (.object [("type", .str "VAR"), ("value", .list [])]) = .error .noKey ∧
      standard.decode (.object [("x", .list []), ("value", .str "A"), ("type", .str "VAR")]) =
        .ok (.variable "A") ∧
      standard.load "[\x7b\"type\": \"VAR\", \"value\": []\x7d]" = .error .noKey ∧
      (CommandLine.perform standard
        ⟨fun _ => .ok "[\x7b\"type\": \"VAR\", \"value\": []\x7d]", fun _ => .ok (),
          fun _ => .ok ()⟩
        ⟨none, some "tokens.json", [], false, none, false, none⟩).2 = .noKey ∧
      (CommandLine.perform standard ⟨fun _ => .ok "\"A\"", fun _ => .ok (), fun _ => .ok ()⟩
        ⟨none, some "tokens.json", [], false, none, false, none⟩).2 = .status 2 := by
  have hvalue : (Value.object [("type", .str "VAR"), ("value", .list [])]).Unsearchable :=
    ⟨.inl rfl, _, rfl, rfl⟩
  have htells : standard.Tells
      (.object [("x", .list []), ("value", .str "A"), ("type", .str "VAR")]) (.variable "A") :=
    ⟨rfl, fun _ hw => hw⟩
  have hobstructed :
      standard.Obstructed (.list [.object [("type", .str "VAR"), ("value", .list [])]]) :=
    ⟨[], _, [], rfl, by simp, hvalue⟩
  have hplain : Json.Plain Json.maxDepth
      (.list [.object [("type", .str "VAR"), ("value", .list [])]]) := by
    refine .list (List.forall_mem_singleton.mpr (.object ?_ (by decide) ?_))
    · exact (by decide : (["type", "value"] : List Text).Nodup)
    · exact List.forall_mem_cons.mpr ⟨.str (by decide), List.forall_mem_singleton.mpr (.list nofun)⟩
  have hread : Json.read "[\x7b\"type\": \"VAR\", \"value\": []\x7d]" =
      .ok (.list [.object [("type", .str "VAR"), ("value", .list [])]]) := Json.read_write hplain
  have htext : Json.read "\"A\"" = .ok (.str "A") :=
    Json.read_write (v := .str "A") (.str (by decide))
  have hinputs : CommandLine.inputs standard
      ⟨none, some "tokens.json", [], false, none, false, none⟩ =
        .ok [("A", false), ("B", false), ("C", false)] := rfl
  obtain ⟨hload, hrun⟩ := (documents_classified _).2 _ hread
  obtain ⟨-, hrunText⟩ := (documents_classified _).2 _ htext
  refine ⟨(documents_classified _).1.noKey.mpr hvalue,
    ((documents_classified _).1.ok _).mpr ⟨by decide, htells⟩, hload.noKey.mpr hobstructed, ?_, ?_⟩
  · exact (hrun _ _ ⟨rfl, _, rfl, by decide, rfl⟩).2 _ hinputs hobstructed
  · exact (hrunText _ _ ⟨rfl, _, rfl, by decide, rfl⟩).1 .notList (by decide +kernel)
      (by rw [hinputs]; simp)

end InfixLogic
