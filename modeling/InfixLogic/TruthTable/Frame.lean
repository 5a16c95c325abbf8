import InfixLogic.TruthTable.Rows

/- Tables of named columns, made from the rows of a truth table, and their two written forms:
   a CSV document, and an aligned table for reading. -/

namespace InfixLogic

/-- A table. A cell is missing where its row has nothing for its column. -/
structure Frame where
  columns : List Text
  rows : List (List (Option Cell))
  deriving DecidableEq, Repr

namespace Frame

def resultColumn : Text := "RESULT"

/-- What a row has for a column. -/
def cell (r : Row) (column : Text) : Option Cell :=
  if column = resultColumn then some r.result
  else (r.assignment.lookup column).map .truth

/-- The table of some rows: a column for each variable, then the results. Unless they are given
the variables are those of the first row. -/
def ofRows (rows : List Row) (given : Option (List Text)) : Frame :=
  let names := given.getD ((rows.head?.map fun r => r.assignment.map (·.1)).getD [])
  let columns := names ++ [resultColumn]
  ⟨columns, rows.map fun r => columns.map (cell r)⟩

def displayed : Cell → Text
  | .truth true => "true"
  | .truth false => "false"
  | .text t => t

/-- A table with its truth values replaced by the words for them. -/
def format (f : Frame) : Frame :=
  { f with rows := f.rows.map fun r => r.map fun c => c.map fun c => .text (displayed c) }

/-- The texts of a table, the header first; a missing cell is empty. -/
def lines (f : Frame) : List (List Text) :=
  f.columns :: f.rows.map fun r => r.map fun c => (c.map displayed).getD []

/-! ## CSV -/

/-- A field of a CSV document: between quotes, with its own quotes doubled, if it holds a comma,
a quote or the end of a line. -/
def field (t : Text) : Text :=
  let special := [CodePoint.char ',', .char '"', .char '\n', .char '\r']
  if t.any special.contains then
    .char '"' :: t.flatMap (fun c => if c = .char '"' then [c, c] else [c]) ++ [.char '"']
  else t

def csv (f : Frame) : Text :=
  f.lines.flatMap fun l => Text.join "," (l.map field) ++ "\n"

/-! ## Aligned tables -/

/-- The width of each column. -/
def widths (f : Frame) : List Nat :=
  f.columns.zipIdx.map fun p =>
    f.lines.foldl (fun w l => max w ((l[p.2]?).getD []).length) 0

/-- A table with every cell set flush right in its column, and a blank between columns. -/
def aligned (f : Frame) : Text :=
  Text.join "\n" (f.lines.map fun l => Text.join " " (f.widths.zipWith Text.alignRight l))

end Frame

end InfixLogic
