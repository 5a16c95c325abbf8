import InfixLogic.Proofs.Decoding

/- Tokens written as documents and read back.

   The object of a token tells its canonical token (`tells_encode`), and so it is decoded to it. The
   document of an expression is the list of these objects as JSON. It is read back as that list, as
   far as the names of operands are written as they are (`Legible`), and then object by object
   (`load_dump`).

   What is loaded from any document is in the vocabulary, so that dumping it and loading it again
   changes nothing (`transport_round_trip`). -/

namespace InfixLogic

namespace Vocabulary

variable {v : Vocabulary} {t : Token} {ts : List Token}

/-! ## Objects -/

@[simp] theorem encode_canonicalToken (v : Vocabulary) (t : Token) :
    v.encode (v.canonicalToken t) = v.encode t := by
  simp only [encode, canonicalToken_canonicalToken]

theorem tells_encode (v : Vocabulary) (t : Token) :
    v.Tells (v.encode t) (v.canonicalToken t) where
  type := by rw [encode_canonicalToken]
  value := fun w hw => by rwa [encode_canonicalToken] at hw

/-- Decoding undoes encoding, up to metadata. -/
theorem decode_encode (hv : v.Ranked) (h : v.defines t = true) :
    v.decode (v.encode t) = .ok (v.canonicalToken t) :=
  (decode_ok_iff hv).mpr ⟨canonicalToken_mem h, v.tells_encode t⟩

/-! ## Documents -/

/-- The operands have names that a JSON text holds as they are. -/
def Legible (v : Vocabulary) : Prop := ∀ t ∈ v.operands, Json.Verbatim t.name

theorem standard_legible : standard.Legible := by
  unfold Legible
  decide

section
variable {d : Nat} {tag w : Text}

theorem plain_bare (htag : Json.Verbatim tag) :
    Json.Plain (d + 1) (.object [("type", .str tag)]) := by
  have htype : Json.Verbatim "type" := by decide
  exact .object (List.nodup_singleton _) (by simpa using htype) (by simpa using .str htag)

theorem plain_valued (htag : Json.Verbatim tag) (hw : Json.Verbatim w) :
    Json.Plain (d + 1) (.object [("type", .str tag), ("value", .str w)]) := by
  have htype : Json.Verbatim "type" := by decide
  have hvalue : Json.Verbatim "value" := by decide
  have hnames : (["type", "value"] : List Text).Nodup := by decide
  exact .object hnames (by simpa using ⟨htype, hvalue⟩) (by simpa using ⟨.str htag, .str hw⟩)

end

/-- The object of a token of the vocabulary is one that JSON brings back. -/
theorem plain_encode (hv : v.Ranked) (hlegible : v.Legible) (h : v.defines t = true) (d : Nat) :
    Json.Plain (d + 1) (v.encode t) := by
  rw [← encode_canonicalToken]
  rcases mem_tokens_cases (canonicalToken_mem h) with hop | ⟨c, hc⟩ | hleft | hright
  · rw [encode_operand hv hop]
    exact plain_valued (by decide) (hlegible _ hop)
  · rw [hc, encode_operator hv]
    exact plain_valued (by decide) (by cases c <;> decide)
  · rw [hleft, encode_leftParen]
    exact plain_bare (by decide)
  · rw [hright, encode_rightParen]
    exact plain_bare (by decide)

/-- The document of an expression lists the objects of its tokens. -/
theorem dump_items (v : Vocabulary) (ts : List Token) :
    v.dump (Token.items ts) = .ok (Json.write (.list (ts.map v.encode))) := by
  have hobjects : (Token.items ts).mapM v.encodeItem = .ok (ts.map v.encode) :=
    mapM_map_ok fun _ _ => rfl
  rw [dump, hobjects]
  rfl

/-- JSON brings back the objects of an expression. -/
theorem read_dump (hv : v.Ranked) (hlegible : v.Legible) (h : ∀ t ∈ ts, v.defines t = true) :
    Json.read (Json.write (.list (ts.map v.encode))) = .ok (.list (ts.map v.encode)) := by
  have hplain : Json.Plain (Json.maxDepth - 1 + 1) (.list (ts.map v.encode)) :=
    .list (List.forall_mem_map.mpr fun t ht => plain_encode hv hlegible (h t ht) _)
  exact Json.read_write hplain

/-- Loading undoes dumping, up to metadata. -/
theorem load_dump (hv : v.Ranked) (hlegible : v.Legible) (h : ∀ t ∈ ts, v.defines t = true) :
    v.load (Json.write (.list (ts.map v.encode))) = .ok (ts.map v.canonicalToken) := by
  rw [load_of_read (read_dump hv hlegible h), decodeList]
  exact mapM_map_ok fun t ht => decode_encode hv (h t ht)

/-- What is loaded from a document is in the vocabulary. -/
theorem mem_tokens_of_load (hv : v.Ranked) {document : Text} (h : v.load document = .ok ts) :
    ∀ t ∈ ts, t ∈ v.tokens := by
  cases hread : Json.read document with
  | error r =>
    rw [load, hread] at h
    cases h
  | ok data =>
    rw [load_of_read hread] at h
    obtain ⟨objects, -, htold⟩ := (decodeList_ok_iff hv).mp h
    exact ((List.forall₂_and_left ts objects).mp htold.flip).1

end Vocabulary

open Vocabulary (standard)

/-- The document of tokens of the vocabulary lists their objects, and it is loaded as the same
tokens in the same order, each as the vocabulary's own. So what was loaded from a document, however
it is written, stays the same when it is dumped and loaded again. -/
theorem transport_round_trip :
    (∀ ts : List Token, (∀ t ∈ ts, standard.defines t = true) →
        ∃ document us, standard.dump (Token.items ts) = .ok document ∧
          Json.read document = .ok (.list (ts.map standard.encode)) ∧
            standard.load document = .ok us ∧ List.Forall₂ standard.Predefined ts us) ∧
      ∀ (document : Text) (ts : List Token), standard.load document = .ok ts →
        ∃ again, standard.dump (Token.items ts) = .ok again ∧ standard.load again = .ok ts := by
  have hranked := Vocabulary.standard_conventional.toRanked
  have hlegible := Vocabulary.standard_legible
  refine ⟨fun ts h => ⟨_, ts.map standard.canonicalToken, standard.dump_items ts, ?_, ?_, ?_⟩,
    fun document ts h => ⟨_, standard.dump_items ts, ?_⟩⟩
  · exact Vocabulary.read_dump hranked hlegible h
  · exact Vocabulary.load_dump hranked hlegible h
  · exact Vocabulary.forall₂_predefined h
  · have hmem := Vocabulary.mem_tokens_of_load hranked h
    rw [Vocabulary.load_dump hranked hlegible fun t ht => hranked.defines_of_mem (hmem t ht),
      hranked.map_canonicalToken hmem]

/-- The cases of look-alikes with metadata of their own, and of a document with odd spacing and key
order, a name given twice, a member too many and an escape. -/
theorem transport_round_trip_look_alike :
    (∃ document us, standard.dump (Token.items
          [⟨.operator, "NOT", some "&&", none, 2, 0, false⟩,
            ⟨.operand, "A", none, some true, 0, 0, false⟩]) = .ok document ∧
        Json.read document = .ok (.list ([⟨.operator, "NOT", some "&&", none, 2, 0, false⟩,
          ⟨.operand, "A", none, some true, 0, 0, false⟩].map standard.encode)) ∧
        standard.load document = .ok us ∧
        List.Forall₂ standard.Predefined [⟨.operator, "NOT", some "&&", none, 2, 0, false⟩,
          ⟨.operand, "A", none, some true, 0, 0, false⟩] us) ∧
      ∃ again, standard.dump (Token.items [.leftParen, .variable "B"]) = .ok again ∧
        standard.load again = .ok [.leftParen, .variable "B"] :=
  ⟨transport_round_trip.1 _ (by decide), transport_round_trip.2 "[\x7b\"type\":\"LPAREN\" ,
    \"x\":[1e5]\x7d,\x7b\"value\":\"A\",\"type\":\"V\\u0041R\",\"value\":\"B\"\x7d]" _
      (by decide +kernel)⟩

end InfixLogic
