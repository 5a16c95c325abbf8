import InfixLogic.Value

/- Tokens, and the items an expression is made of.

   A token is identified by its tag and its name; the rest is metadata. An expression is a list
   of items: tokens, and foreign values that somebody put in their place. -/

namespace InfixLogic

inductive Tag where
  | operand
  | operator
  | leftParen
  | rightParen
  deriving DecidableEq, Repr

def Tag.name : Tag → Text
  | .operand => "OPERAND"
  | .operator => "OPERATOR"
  | .leftParen => "LPAREN"
  | .rightParen => "RPAREN"

/-- A token. Constants have a value; operators have an arity, a precedence and a side on which
equal precedences group. -/
structure Token where
  tag : Tag
  name : Text
  symbol : Option Text
  value : Option Bool
  arity : Int
  precedence : Int
  rightAssoc : Bool
  deriving DecidableEq, Repr

namespace Token

def plain (tag : Tag) (name : Text) : Token := ⟨tag, name, none, none, 0, 0, false⟩

/-- What identifies a token. -/
def identity (t : Token) : Tag × Text := (t.tag, t.name)

def same (a b : Token) : Bool := a.identity == b.identity

def isOperand (t : Token) : Bool := t.tag == .operand

def isOperator (t : Token) : Bool := t.tag == .operator

def isBinary (t : Token) : Bool := t.isOperator && t.arity == 2

/-- Whether a token is an operand with a value of its own. -/
def isConstant (t : Token) : Bool := t.isOperand && t.value.isSome

/-- Whether an operand may begin with this token: it is an operand or an opening parenthesis. -/
def opensOperand (t : Token) : Bool := t.tag == .operand || t.tag == .leftParen

/-- Whether an operand may end with this token: it is an operand or a closing parenthesis. -/
def closesOperand (t : Token) : Bool := t.tag == .operand || t.tag == .rightParen

/-- How a token stands in an expression: its symbol, or its name if it has none. -/
def label (t : Token) : Text :=
  match t.symbol with
  | some (c :: cs) => c :: cs
  | _ => t.name

def written (t : Token) : Text :=
  if t.tag = .leftParen ∨ t.tag = .rightParen then "Token(" ++ t.tag.name ++ ")"
  else "Token(" ++ t.tag.name ++ ", " ++ t.name.quoted ++ ")"

end Token

/-- An item of an expression: a token, or a value that is none. -/
inductive Item where
  | token (t : Token)
  | foreign (v : Value)
  deriving Repr

/-- Whether two items are the same: tokens by what identifies them, foreign values by value. -/
def Item.same : Item → Item → Bool
  | .token a, .token b => a.same b
  | .foreign v, .foreign w => v.same w
  | _, _ => false

def Item.isKey : Item → Bool
  | .token _ => true
  | .foreign v => v.isKey

def Token.items (ts : List Token) : List Item := ts.map .token

end InfixLogic
