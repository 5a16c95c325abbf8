import InfixLogic.Value

/- Environments: what the free operands stand for.

   An environment binds names to arbitrary values, each of which counts by its truthiness. A
   name that is not bound is false. -/

namespace InfixLogic

/-- Names with their values; the first binding of a name counts. -/
abbrev Environment := List (Text × Value)

namespace Environment

/-- The truth value of a name. -/
def truth (env : Environment) (name : Text) : Bool := (env.lookup name).any Value.truthy

def ofBools (bs : List (Text × Bool)) : Environment := bs.map fun p => (p.1, .bool p.2)

end Environment

end InfixLogic
