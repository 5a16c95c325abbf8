import InfixLogic.Text.Quoted
import InfixLogic.Text.Utf8

/- Paths as they are given on a command line.

   Slashes split a path into steps. A path is kept as it was written, since messages quote it;
   what it leads to depends on a disk. Some texts are no paths at all, whatever the disk holds:
   those with half of a surrogate pair that stands for no byte, with a null character, or with
   too many bytes. A file that a path leads to may still hold no text. -/

namespace InfixLogic.CommandLine

/-- Why a path leads to no file. -/
inductive PathFault where
  /-- There is nothing at some step. -/
  | missing
  /-- A step goes on from what is no folder. -/
  | notFolder
  | isFolder
  /-- The path or one of its steps has too many bytes. -/
  | tooLong
  | nullCharacter
  /-- From a position on stand halves of surrogate pairs, the first of which is no byte. -/
  | noBytes (position : Nat) (halves : Text)
  deriving DecidableEq, Repr

def PathFault.message (path : Text) : PathFault → Text
  | .missing => "[Errno 2] No such file or directory: " ++ path.quoted
  | .notFolder => "[Errno 20] Not a directory: " ++ path.quoted
  | .isFolder => "[Errno 21] Is a directory: " ++ path.quoted
  | .tooLong => "[Errno 36] File name too long: " ++ path.quoted
  | .nullCharacter => "embedded null byte"
  | .noBytes position [c] =>
    "'utf-8' codec can't encode character " ++ Text.quoted [c] ++ " in position " ++
      Text.ofNat position ++ ": surrogates not allowed"
  | .noBytes position halves =>
    "'utf-8' codec can't encode characters in position " ++ Text.ofNat position ++ "-" ++
      Text.ofNat (position + halves.length - 1) ++ ": surrogates not allowed"

/-- Why the file at a path is not read. -/
inductive ReadFault where
  | path (f : PathFault)
  /-- The file is there, but it may not be read. -/
  | forbidden
  /-- The bytes of the file are no text. -/
  | noText (f : Utf8Fault)
  deriving DecidableEq, Repr

def ReadFault.message (path : Text) : ReadFault → Text
  | .path f => f.message path
  | .forbidden => "[Errno 13] Permission denied: " ++ path.quoted
  | .noText f => f.message

namespace Path

/-- The number of bytes of a code point. The halves from U+DC80 to U+DCFF stand for one byte
each that is no part of a text; the others have none. -/
def byteCount? : CodePoint → Option Nat
  | .char c => some c.utf8Size
  | .lone n => if 0x480 ≤ n.val ∧ n.val < 0x500 then some 1 else none

def isHalf : CodePoint → Bool
  | .char _ => false
  | .lone _ => true

def byteCount (t : Text) : Nat := t.foldl (fun n c => n + (byteCount? c).getD 0) 0

def maxBytes : Nat := 4095

def maxStepBytes : Nat := 255

/-- What keeps a text from being a path on any disk. -/
def fault? (path : Text) : Option PathFault :=
  let sound := path.takeWhile fun c => (byteCount? c).isSome
  let rest := path.drop sound.length
  if !rest.isEmpty then some (.noBytes sound.length (rest.takeWhile isHalf))
  else if path.contains (.char '\x00') then some .nullCharacter
  else if maxBytes < byteCount path then some .tooLong
  else none

def isAbsolute (path : Text) : Bool := path.head? = some (.char '/')

/-- Whether a path ends in a slash, so that it can only mean a folder. -/
def endsInSlash (path : Text) : Bool := path.getLast? = some (.char '/')

/-- The steps of a path. -/
def steps (path : Text) : List Text := (path.splitOn (.char '/')).filter fun s => !s.isEmpty

def stay : Text := "."

def leave : Text := ".."

/-- The steps of a path that do not stay in place. -/
def moves (path : Text) : List Text := (steps path).filter (· != stay)

end Path

end InfixLogic.CommandLine
