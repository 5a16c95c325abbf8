import InfixLogic.Vocabulary
import InfixLogic.Json.Reader
import InfixLogic.Json.Writer

/- Tokens as JSON documents.

   A token is an object with a type; an operand adds its name and an operator its symbol, both
   as the member `value`. An expression is a list of such objects. -/

namespace InfixLogic

namespace Vocabulary

/-- The object of a token: that of its canonical form. -/
def encode (v : Vocabulary) (t : Token) : Value :=
  let t := v.canonicalToken t
  match t.tag with
  | .operand => .object [("type", .str "VAR"), ("value", .str t.name)]
  | .operator => .object [("type", .str "OP"), ("value", (t.symbol.map Value.str).getD .null)]
  | .leftParen => .object [("type", .str "LPAREN")]
  | .rightParen => .object [("type", .str "RPAREN")]

/-- The object of an item; a foreign value has none. -/
def encodeItem (v : Vocabulary) : Item → Except Fault Value
  | .token t => .ok (v.encode t)
  | .foreign w => .error (.notToken w.written)

/-- The operator whose symbol is a value. -/
def operatorOfSymbol (v : Vocabulary) (symbol : Value) : Except Failure Token :=
  if !symbol.isKey then .error .noKey
  else
    let found :=
      match symbol with
      | .str t => v.operatorOfSymbol? t
      | _ => none
    match found with
    | some t => .ok t
    | none => .error (.fault (.noOperator symbol.written))

/-- The token of an object. Members other than the type and the value are passed over, and a
value that is missing counts as null. -/
def decode (v : Vocabulary) (data : Value) : Except Failure Token :=
  match data.member? "type" with
  | none => .error (.fault (.malformed data.written))
  | some type =>
    let value := (data.member? "value").getD .null
    match type with
    | .str tag =>
      if tag = "VAR" then v.operandOf value
      else if tag = "OP" then v.operatorOfSymbol value
      else if tag = "LPAREN" then .ok .leftParen
      else if tag = "RPAREN" then .ok .rightParen
      else .error (.fault (.unknownType type.written))
    | _ => .error (.fault (.unknownType type.written))

def dump (v : Vocabulary) (items : List Item) : Except Fault Text := do
  let objects ← items.mapM v.encodeItem
  pure (Json.write (.list objects))

/-- The tokens of a document that has been read. -/
def decodeList (v : Vocabulary) : Value → Except Failure (List Token)
  | .list objects => objects.mapM v.decode
  | _ => .error (.fault .notList)

def load (v : Vocabulary) (document : Text) : Except Failure (List Token) :=
  match Json.read document with
  | .ok data => v.decodeList data
  | .error r => .error (.json r)

end Vocabulary

end InfixLogic
