import InfixLogic.Value

/- Writing a JSON text: items and members separated by a comma and a blank, names followed by a
   colon and a blank, and nothing outside of printable ASCII, so that other characters stand as
   escapes of their UTF-16 units. -/

namespace InfixLogic.Json

def escapedUnit (n : Nat) : Text := "\\u" ++ Text.hex 4 n

/-- A code point as it stands in a string. -/
def writtenPoint (c : CodePoint) : Text :=
  if c = .char '"' ∨ c = .char '\\' then [.char '\\', c]
  else if c = .char '\n' then "\\n"
  else if c = .char '\r' then "\\r"
  else if c = .char '\t' then "\\t"
  else if c = .char '\x08' then "\\b"
  else if c = .char '\x0c' then "\\f"
  else
    let n := c.value
    if 0x20 ≤ n ∧ n < 0x7F then [c]
    else if n < 0x10000 then escapedUnit n
    else escapedUnit (0xD800 + (n - 0x10000) / 0x400) ++ escapedUnit (0xDC00 + n % 0x400)

def writtenString (t : Text) : Text := .char '"' :: t.flatMap writtenPoint ++ [.char '"']

def writtenFloat (bits : UInt64) : Text :=
  match Binary64.decode bits with
  | .nan => "NaN"
  | .infinite negative => if negative then "-Infinity" else "Infinity"
  | x => x.write

mutual

/-- The JSON text of a value. -/
def write : Value → Text
  | .null => "null"
  | .bool true => "true"
  | .bool false => "false"
  | .int n => Text.ofInt n
  | .float bits => writtenFloat bits
  | .str t => writtenString t
  | .list vs => "[" ++ writeItems vs ++ "]"
  | .object ms => "\x7b" ++ writeMembers ms ++ "\x7d"

def writeItems : List Value → Text
  | [] => []
  | [v] => write v
  | v :: rest => write v ++ ", " ++ writeItems rest

def writeMembers : List (Text × Value) → Text
  | [] => []
  | [(k, v)] => writtenString k ++ ": " ++ write v
  | (k, v) :: rest =>
    writtenString k ++ ": " ++ write v ++ ", " ++ writeMembers rest

end

end InfixLogic.Json
