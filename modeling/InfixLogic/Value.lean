import InfixLogic.Text.Quoted
import InfixLogic.Decimal.Shortest

/- Values that come in from outside: what a JSON document can hold.

   A value counts as true or false by its truthiness, is written in messages by `written`, and
   is compared by `same`, where numbers are compared as numbers whatever their kind. -/

namespace InfixLogic

/-- A JSON value. Integers are unbounded; a number with a fraction or an exponent is a binary
floating-point number, held as its bit pattern. The members of an object stand in the order of
their first appearance, each name once. -/
inductive Value where
  | null
  | bool (b : Bool)
  | int (n : Int)
  | float (bits : UInt64)
  | str (t : Text)
  | list (vs : List Value)
  | object (members : List (Text × Value))
  deriving Repr

namespace Value

/-! ## Truthiness -/

/-- False are null, false, the zeros, and whatever is empty; all else is true. -/
def truthy : Value → Bool
  | .null => false
  | .bool b => b
  | .int n => n != 0
  | .float bits => bits.toNat % Binary64.signWeight != 0
  | .str t => !t.isEmpty
  | .list vs => !vs.isEmpty
  | .object ms => !ms.isEmpty

/-- Whether a value can be looked up in a table: lists and objects cannot. -/
def isKey : Value → Bool
  | .list _ | .object _ => false
  | _ => true

/-- The member of an object with a given name. -/
def member? (name : Text) : Value → Option Value
  | .object ms => ms.lookup name
  | _ => none

/-! ## Writing -/

mutual

def written : Value → Text
  | .null => "None"
  | .bool true => "True"
  | .bool false => "False"
  | .int n => Text.ofInt n
  | .float bits => (Binary64.decode bits).write
  | .str t => t.quoted
  | .list vs => "[" ++ writtenItems vs ++ "]"
  | .object ms => "\x7b" ++ writtenMembers ms ++ "\x7d"

def writtenItems : List Value → Text
  | [] => []
  | [v] => v.written
  | v :: rest => v.written ++ ", " ++ writtenItems rest

def writtenMembers : List (Text × Value) → Text
  | [] => []
  | [(k, v)] => k.quoted ++ ": " ++ v.written
  | (k, v) :: rest => k.quoted ++ ": " ++ v.written ++ ", " ++ writtenMembers rest

end

/-! ## Comparison -/

/-- A number as an exact one, `m * 2 ^ e`; truth values count as one and zero. -/
def numeric? : Value → Option (Int × Int)
  | .bool b => some (if b then 1 else 0, 0)
  | .int n => some (n, 0)
  | .float bits =>
    match Binary64.decode bits with
    | .finite negative m e => some (if negative then -(m : Int) else m, e)
    | _ => none
  | _ => none

/-- Whether `m * 2 ^ e` and `m' * 2 ^ e'` are one number. -/
def sameNumber (a b : Int × Int) : Bool :=
  a.1 * Nat.pow 2 (a.2 - b.2).toNat == b.1 * Nat.pow 2 (b.2 - a.2).toNat

mutual

/-- Whether two values are equal: numbers by what they stand for, lists item by item, objects
member by member in any order. Not-a-number equals nothing. -/
def same : Value → Value → Bool
  | .null, .null => true
  | .str s, .str t => s == t
  | .list vs, .list ws => sameItems vs ws
  | .object ms, .object ns => ms.length == ns.length && sameMembers ms ns
  | .float a, .float b =>
    match numeric? (.float a), numeric? (.float b) with
    | some x, some y => sameNumber x y
    | _, _ => Binary64.decode a == Binary64.decode b && Binary64.decode a != .nan
  | v, w =>
    match numeric? v, numeric? w with
    | some x, some y => sameNumber x y
    | _, _ => false

def sameItems : List Value → List Value → Bool
  | [], [] => true
  | v :: vs, w :: ws => v.same w && sameItems vs ws
  | _, _ => false

/-- Every member of the first list has an equal one of its name in the second. -/
def sameMembers : List (Text × Value) → List (Text × Value) → Bool
  | [], _ => true
  | (k, v) :: ms, ns =>
    (match ns.lookup k with
      | some w => v.same w
      | none => false) && sameMembers ms ns

end

end Value

end InfixLogic
