import InfixLogic.Text.Basic

/- The three connectives of the language: their names, symbols, arities and truth functions. -/

namespace InfixLogic

inductive Connective where
  | not
  | and
  | or
  deriving DecidableEq, Repr

namespace Connective

def all : List Connective := [.not, .and, .or]

def name : Connective → Text
  | .not => "NOT"
  | .and => "AND"
  | .or => "OR"

def symbol : Connective → Text
  | .not => "!"
  | .and => "&&"
  | .or => "||"

def arity : Connective → Int
  | .not => 1
  | .and => 2
  | .or => 2

def ofName? (n : Text) : Option Connective := all.find? fun c => c.name == n

end Connective

end InfixLogic
