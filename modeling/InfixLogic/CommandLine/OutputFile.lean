import InfixLogic.CommandLine.Archive
import InfixLogic.Text.CaseMap

/- A file that is written, and the form in which it is stored.

   The end of the path decides the form: a text as it is, an archive that holds the text as a
   file, or packed bytes. -/

namespace InfixLogic.CommandLine

/-- The forms in which a text is stored. There is no support for the last one. -/
inductive Packing where
  | plain
  | archive
  | packed
  | unsupported
  deriving DecidableEq, Repr

namespace Packing

def endsIn (path : Text) (ends : List Text) : Bool := ends.any fun e => e.isSuffixOf path

/-- The last step of a path that does not stay in place. -/
def fileName (path : Text) : Text := (Path.moves path).getLast?.getD []

/-- A name up to its last point, and the rest of it from there on, which is empty unless the
point stands between other characters. -/
def splitName (name : Text) : Text × Text :=
  let ending := (name.reverse.takeWhile (· != .char '.')).reverse
  let stem := name.take (name.length - ending.length - 1)
  if stem.isEmpty || ending.isEmpty then (name, []) else (stem, .char '.' :: ending)

/-- The form of the file at a path. Capital letters count as small ones, but an archive is packed
only if its name ends so in small letters. -/
def ofPath (path : Text) : Packing :=
  let small := Text.lower path
  if endsIn small [".tar", ".tar.gz", ".tar.bz2", ".tar.xz"] then
    if ([".gz", ".xz", ".bz2"] : List Text).contains (splitName (fileName path)).2 then .packed
    else .archive
  else if endsIn small [".gz", ".bz2", ".zip", ".xz"] then .packed
  else if endsIn small [".zst"] then .unsupported
  else .plain

end Packing

structure OutputFile where
  path : Text
  text : Text
  deriving DecidableEq, Repr

namespace OutputFile

/-- The name of the file in an archive: that of the archive without its ending. -/
def memberName (f : OutputFile) : Text :=
  let name := Packing.fileName f.path
  match Packing.splitName name with
  | (stem, ending) => if ending = ".tar" then stem else name

/-- The content of the file, if it is text. -/
def content? (f : OutputFile) : Option Text :=
  match Packing.ofPath f.path with
  | .plain => some f.text
  | .archive =>
    if f.memberName.any Path.isHalf then none else some (Archive.pack f.memberName f.text)
  | .packed | .unsupported => none

/-- Only a plain file holds its text as it is. An archive is longer than the text in it. -/
theorem content?_eq_text_iff (f : OutputFile) :
    f.content? = some f.text ↔ Packing.ofPath f.path = .plain := by
  cases hpacking : Packing.ofPath f.path with
  | plain => simp [content?, hpacking]
  | archive =>
    have hlonger : Archive.pack f.memberName f.text ≠ f.text := fun h =>
      Nat.ne_of_gt (Archive.length_lt_length_pack f.memberName f.text) (congrArg List.length h)
    simp only [content?, hpacking]
    split <;> simp [hlonger]
  | packed | unsupported => simp [content?, hpacking]

end OutputFile

end InfixLogic.CommandLine
