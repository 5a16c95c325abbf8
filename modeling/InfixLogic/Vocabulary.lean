import InfixLogic.Settings
import InfixLogic.Fault

/- The vocabulary: the tokens an expression may be made of.

   The operands come first, then one operator for each connective with its precedence and
   grouping, then the two parentheses. `canonical` puts a token of the vocabulary in place of
   one that only looks like it, so that no metadata from outside has a say. -/

namespace InfixLogic

def Token.leftParen : Token := { Token.plain .leftParen "LPAREN" with symbol := some "(" }

def Token.rightParen : Token := { Token.plain .rightParen "RPAREN" with symbol := some ")" }

def Token.variable (name : Text) : Token :=
  { Token.plain .operand name with symbol := some name }

def Token.constant (name : Text) (b : Bool) : Token :=
  { Token.plain .operand name with symbol := some name, value := some b }

/-- A vocabulary: the operands whose value is free, the constants, and how strongly and on
which side each connective groups. -/
structure Vocabulary where
  freeVariables : List Text
  constants : List (Text × Bool)
  rank : Connective → Int
  groupsRight : Connective → Bool

namespace Vocabulary

/-- The vocabulary that settings give. -/
def ofSettings (s : Settings) : Vocabulary where
  freeVariables := s.freeVariables
  constants := s.constants
  rank := s.rank
  groupsRight c := s.rightAssociative.contains c.name

def standard : Vocabulary := ofSettings .standard

def operator (v : Vocabulary) (c : Connective) : Token where
  tag := .operator
  name := c.name
  symbol := some c.symbol
  value := none
  arity := c.arity
  precedence := v.rank c
  rightAssoc := v.groupsRight c

def operands (v : Vocabulary) : List Token :=
  v.freeVariables.map Token.variable ++ v.constants.map fun c => Token.constant c.1 c.2

def operators (v : Vocabulary) : List Token := Connective.all.map v.operator

def groupers : List Token := [.leftParen, .rightParen]

def tokens (v : Vocabulary) : List Token := v.operands ++ v.operators ++ groupers

/-! ## Looking up -/

def find? (v : Vocabulary) (name : Text) : Option Token := v.tokens.find? fun t => t.name == name

def defines (v : Vocabulary) (t : Token) : Bool :=
  (v.find? t.name).any fun d => d.same t

def operand? (v : Vocabulary) (name : Text) : Option Token :=
  (v.find? name).filter (·.isOperand)

def operatorOfSymbol? (v : Vocabulary) (symbol : Text) : Option Token :=
  v.operators.find? fun t => t.symbol == some symbol

/-- The operator of a symbol, or else of a name. -/
def operator? (v : Vocabulary) (kind : Text) : Option Token :=
  (v.operatorOfSymbol? kind).or ((v.find? kind).filter (·.isOperator))

def isFree (v : Vocabulary) (t : Token) : Bool := t.isOperand && v.freeVariables.contains t.name

/-! ## Canonical tokens -/

/-- The token of the vocabulary that a token looks like, or else the token itself. -/
def canonicalToken (v : Vocabulary) (t : Token) : Token :=
  match v.find? t.name with
  | some d => if d.tag = t.tag then d else t
  | none => t

/-- The canonical token of an item; a foreign value has none. -/
def canonical (v : Vocabulary) : Item → Except Fault Token
  | .token t => .ok (v.canonicalToken t)
  | .foreign w => .error (.notToken w.written)

/-- The operand whose name is a value. -/
def operandOf (v : Vocabulary) (name : Value) : Except Failure Token :=
  if !name.isKey then .error .noKey
  else
    let found :=
      match name with
      | .str t => v.operand? t
      | _ => none
    match found with
    | some t => .ok t
    | none => .error (.fault (.noOperand name.written))

/-- The operator whose name or symbol is a value. -/
def operatorOf (v : Vocabulary) (kind : Value) : Except Failure Token :=
  if !kind.isKey then .error .noKey
  else
    let found :=
      match kind with
      | .str t => v.operator? t
      | _ => none
    match found with
    | some t => .ok t
    | none => .error (.fault (.noOperator kind.written))

/-! ## Expressions as text -/

/-- How an item stands in an expression: the label of its canonical token, or the written form
of a foreign value. -/
def label (v : Vocabulary) : Item → Text
  | .token t => (v.canonicalToken t).label
  | .foreign w => w.written

def format (v : Vocabulary) (items : List Item) : Text := Text.join " " (items.map v.label)

end Vocabulary

end InfixLogic
