import InfixLogic.Json.Lexeme

/- Reading a JSON text.

   The lexemes drive a stack of open lists and objects, and the first of them that has no place
   decides why a text is refused. A member named twice keeps its first place and takes its last
   value. -/

namespace InfixLogic.Json

/-- Why a text is refused: it is no JSON, or it holds an integer of too many digits, or lists and
objects too many levels deep. -/
inductive Refusal where
  | malformed
  | longNumber (digits : Nat)
  | tooDeep
  deriving DecidableEq, Repr

def longNumberMessage (count : Nat) : Text :=
  "Exceeds the limit (" ++ Text.ofNat maxDigits ++
    " digits) for integer string conversion: value has " ++ Text.ofNat count ++
    " digits; use sys.set_int_max_str_digits() to increase the limit"

def maxDepth : Nat := 990

/-- An open list or object that waits for the value being read. -/
inductive Frame where
  | list (items : List Value)
  | object (members : List (Text × Value)) (name : Text)
  deriving Repr

/-- What may come next: a value; a first item or the end of a list; a first member or the end
of an object; a further member's name; the colon after a name; or what follows a value. -/
inductive Mode where
  | value
  | firstItem
  | firstMember
  | name (members : List (Text × Value))
  | colon (members : List (Text × Value)) (name : Text)
  | after (v : Value)
  deriving Repr

/-- Sets a member: in its place if the name is there already, else at the end. -/
def setMember (name : Text) (v : Value) : List (Text × Value) → List (Text × Value)
  | [] => [(name, v)]
  | (n, w) :: rest => if n = name then (n, v) :: rest else (n, w) :: setMember name v rest

/-- The effect of a lexeme where a value is due. Only frames are open there, so that their number
is the depth. -/
def stepValue (stack : List Frame) : Lexeme → Except Refusal (List Frame × Mode)
  | .scalar v => .ok (stack, .after v)
  | .openList =>
    if stack.length < maxDepth then .ok (.list [] :: stack, .firstItem) else .error .tooDeep
  | .openObject => if stack.length < maxDepth then .ok (stack, .firstMember) else .error .tooDeep
  | .longNumber n => .error (.longNumber n)
  | _ => .error .malformed

/-- One lexeme's effect on the open frames and on what may come next. Items of an open list
stand in reverse. -/
def step : List Frame × Mode → Lexeme → Except Refusal (List Frame × Mode)
  | (stack, .value), l => stepValue stack l
  | (.list _ :: stack, .firstItem), .closeList => .ok (stack, .after (.list []))
  | (stack, .firstItem), l => stepValue stack l
  | (stack, .firstMember), .closeObject => .ok (stack, .after (.object []))
  | (stack, .firstMember), .scalar (.str k) => .ok (stack, .colon [] k)
  | (stack, .name ms), .scalar (.str k) => .ok (stack, .colon ms k)
  | (stack, .colon ms k), .colon => .ok (.object ms k :: stack, .value)
  | (.list vs :: stack, .after v), .comma => .ok (.list (v :: vs) :: stack, .value)
  | (.list vs :: stack, .after v), .closeList => .ok (stack, .after (.list (v :: vs).reverse))
  | (.object ms k :: stack, .after v), .comma => .ok (stack, .name (setMember k v ms))
  | (.object ms k :: stack, .after v), .closeObject =>
    .ok (stack, .after (.object (setMember k v ms)))
  | _, _ => .error .malformed

/-- The value that a list of lexemes forms, if it is used up by it. -/
def parse (ls : List Lexeme) : Except Refusal Value := do
  match ← ls.foldlM step ([], .value) with
  | ([], .after v) => .ok v
  | _ => .error .malformed

/-- The value of a JSON text. -/
def read (t : Text) : Except Refusal Value := parse (lexemes t)

end InfixLogic.Json
