import InfixLogic.CommandLine.Path

/- An archive that holds one file.

   An archive is a run of blocks of 512 bytes: a header, the text of the file filled up with null
   characters, and empty blocks up to a multiple of twenty. A header is a row of fields of fixed
   width, with a sum of all its bytes. A name that is too long for its field or holds more than
   ASCII is given in full in an extension, which stands in front as if it were a file. -/

namespace InfixLogic.CommandLine.Archive

def blockSize : Nat := 512

/-- The bytes that the size of an archive is a multiple of. -/
def recordSize : Nat := 20 * blockSize

def nulls (n : Nat) : Text := List.replicate n (.char '\x00')

/-- A text cut or filled up to the width of a field. -/
def field (width : Nat) (t : Text) : Text := t.take width ++ nulls (width - t.length)

/-- A number in octal, filled up with zeros, and a null character. -/
def octal (width n : Nat) : Text :=
  let digits := Text.ofChars (Nat.toDigits 8 n)
  List.replicate (width - 1 - digits.length) (.char '0') ++ digits ++ nulls 1

/-- The fields of a header in front of its sum, and those behind it. -/
def fields (name : Text) (mode size : Nat) (kind : Char) : Text × Text :=
  (field 100 name ++ octal 8 mode ++ octal 8 0 ++ octal 8 0 ++ octal 12 size ++ octal 12 0,
    .char kind :: nulls 100 ++ field 6 "ustar" ++ "00" ++ nulls 247)

/-- A header. Its sum is taken with blanks in the place of the sum. -/
def header (name : Text) (mode size : Nat) (kind : Char) : Text :=
  let (front, back) := fields name mode size kind
  let sum := (front ++ "        " ++ back).foldl (fun n c => n + c.value) 0
  front ++ octal 7 sum ++ " " ++ back

theorem length_header_pos (name : Text) (mode size : Nat) (kind : Char) :
    0 < (header name mode size kind).length := by
  have hblank : (Text.ofString " ").length = 1 := rfl
  simp only [header, fields, List.length_append]
  omega

/-- A text filled up to full blocks. -/
def blocks (t : Text) : Text :=
  let rest := Path.byteCount t % blockSize
  if rest = 0 then t else t ++ nulls (blockSize - rest)

theorem length_le_length_blocks (t : Text) : t.length ≤ (blocks t).length := by
  rw [blocks]
  split
  · exact Nat.le_refl _
  · simp

def digitCount (n : Nat) : Nat := (Nat.toDigits 10 n).length

/-- The least sum of some bytes and the number of its own digits. -/
def selfCounted (bytes : Nat) : Nat :=
  (List.range 5).foldl (fun n _ => bytes + digitCount n) 0

/-- The line that gives a name in full. It starts with its own length. -/
def nameRecord (name : Text) : Text :=
  let line : Text := " path=" ++ name ++ "\n"
  Text.ofNat (selfCounted (Path.byteCount line)) ++ line

def isAscii (c : CodePoint) : Bool := c.value < 0x80

/-- The extension that a name needs, if it needs one. -/
def extension (name : Text) : Text :=
  if name.all isAscii && name.length ≤ 100 then []
  else
    let line := nameRecord name
    header "././@PaxHeader" 0 (Path.byteCount line) 'x' ++ blocks line

/-- A name as it stands in a header, with question marks for what is not ASCII. -/
def headerName (name : Text) : Text := name.map fun c => if isAscii c then c else .char '?'

/-- The archive that holds a text as a file of some name. -/
def pack (name text : Text) : Text :=
  let entry :=
    extension name ++ header (headerName name) 0o644 (Path.byteCount text) '0' ++ blocks text
  let size := Path.byteCount entry + 2 * blockSize
  let rest := size % recordSize
  entry ++ nulls (2 * blockSize + if rest = 0 then 0 else recordSize - rest)

/-- An archive is longer than the text that it holds. -/
theorem length_lt_length_pack (name text : Text) : text.length < (pack name text).length := by
  have hheader := length_header_pos (headerName name) 0o644 (Path.byteCount text) '0'
  have hblocks := length_le_length_blocks text
  simp only [pack, List.length_append]
  omega

end InfixLogic.CommandLine.Archive
