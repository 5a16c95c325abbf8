import InfixLogic.Text.Unprintable

/- Quoted texts, as messages show them.

   A text stands between single quotes, or between double quotes if it holds a single quote
   and no double quote. Inside, the quote in use and the backslash are escaped by a backslash,
   tab, newline and carriage return by a letter, and every other unprintable code point by
   its number. -/

namespace InfixLogic

namespace CodePoint

/-- The escape of a code point by its number, in the shortest of the three widths. -/
def numbered (c : CodePoint) : Text :=
  let n := c.value
  if n < 0x100 then "\\x" ++ Text.hex 2 n
  else if n < 0x10000 then "\\u" ++ Text.hex 4 n
  else "\\U" ++ Text.hex 8 n

/-- How a code point is written between two quotes of the given kind. -/
def escaped (quote : CodePoint) (c : CodePoint) : Text :=
  if c = quote ∨ c = .char '\\' then [.char '\\', c]
  else if c = .char '\t' then "\\t"
  else if c = .char '\n' then "\\n"
  else if c = .char '\r' then "\\r"
  else if c.isPrintable then [c]
  else c.numbered

end CodePoint

namespace Text

/-- The quote that a text is put between. -/
def quote (t : Text) : CodePoint :=
  if t.contains (.char '\'') && !t.contains (.char '"') then .char '"' else .char '\''

def quoted (t : Text) : Text :=
  t.quote :: t.flatMap (CodePoint.escaped t.quote) ++ [t.quote]

end Text

end InfixLogic
