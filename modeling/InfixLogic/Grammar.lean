import InfixLogic.Expr

/- The grammar of expressions.

   Disjunctions are made of conjunctions, conjunctions of negations, negations of atoms, and an
   atom is an operand or a disjunction between parentheses. Disjunctions and conjunctions group
   to the left. A derivation relates the tokens of an expression to its tree. -/

namespace InfixLogic

inductive Stratum where
  | atom
  | negation
  | conjunction
  | disjunction
  deriving DecidableEq, Repr

/-- The tokens of a level and the trees that they stand for. -/
inductive Derives (v : Vocabulary) : Stratum → List Token → Expr → Prop where
  | operand {t : Token} (mem : t ∈ v.operands) : Derives v .atom [t] (.operand t)
  | group {ts : List Token} {e : Expr} (inner : Derives v .disjunction ts e) :
      Derives v .atom (.leftParen :: ts ++ [.rightParen]) e
  | atom {ts : List Token} {e : Expr} (inner : Derives v .atom ts e) : Derives v .negation ts e
  | not {ts : List Token} {e : Expr} (inner : Derives v .negation ts e) :
      Derives v .negation (v.operator .not :: ts) (.not e)
  | negation {ts : List Token} {e : Expr} (inner : Derives v .negation ts e) :
      Derives v .conjunction ts e
  | and {ts us : List Token} {e f : Expr} (left : Derives v .conjunction ts e)
      (right : Derives v .negation us f) :
      Derives v .conjunction (ts ++ v.operator .and :: us) (.and e f)
  | conjunction {ts : List Token} {e : Expr} (inner : Derives v .conjunction ts e) :
      Derives v .disjunction ts e
  | or {ts us : List Token} {e f : Expr} (left : Derives v .disjunction ts e)
      (right : Derives v .conjunction us f) :
      Derives v .disjunction (ts ++ v.operator .or :: us) (.or e f)

end InfixLogic
