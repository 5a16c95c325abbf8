import InfixLogic.CommandLine.Path
import InfixLogic.Text.Blank
import InfixLogic.Text.Percent

/- Addresses: a scheme, a host, and a place there.

   No host on the net is ever reached, but an address that no request can be made of is told
   apart from that. The only host that answers is this machine, which gives out its files under
   the scheme `file`. Hosts and places of files are percent-decoded. -/

namespace InfixLogic.CommandLine

/-- Why nothing is reached at an address. -/
inductive AddressFault where
  /-- The brackets of the host do not match. -/
  | brackets
  /-- The port is no number, or a blank or a control stands in the host or the place. -/
  | spelling
  /-- A character that cannot be sent stands in the place or the host. -/
  | letters
  /-- A label of the host is empty or too long, or is no text. -/
  | label
  | nullCharacter
  /-- The host does not answer, or there is no file at the place. -/
  | unreachable
  | path (f : PathFault)
  deriving DecidableEq, Repr

/-- An address. A host that is not given is empty. -/
structure Address where
  scheme : Text
  host : Text
  place : Text
  deriving DecidableEq, Repr

namespace Address

/-! ## Schemes -/

def isSchemeMark : CodePoint → Bool
  | .char c => c.isAlphanum || c == '+' || c == '-' || c == '.'
  | .lone _ => false

/-- The scheme of a text, which starts with a letter, and what follows the colon behind it. -/
def splitScheme? (t : Text) : Option (Text × Text) :=
  match t.takeWhile isSchemeMark, t.dropWhile isSchemeMark with
  | .char c :: scheme, .char ':' :: rest =>
    if c.isAlpha then some (.char c :: scheme, rest) else none
  | _, _ => none

def lowerLetters (t : Text) : Text :=
  t.map fun
    | .char c => .char c.toLower
    | .lone n => .lone n

def netSchemes : List Text := [
  "file", "ftp", "git", "git+ssh", "gopher", "hdl", "http", "https", "imap", "mms", "nfs", "nntp",
  "prospero", "rsync", "rtsp", "rtsps", "rtspu", "sftp", "shttp", "sip", "sips", "snews", "svn",
  "svn+ssh", "tel", "telnet", "wais", "ws", "wss"]

/-- A text as its scheme is looked for: blanks and controls in front do not count, and neither do
tabs and line ends anywhere. -/
def visible (t : Text) : Text :=
  (t.dropWhile fun c => c.value ≤ 0x20).filter fun c =>
    c != .char '\t' && c != .char '\n' && c != .char '\r'

/-- Whether a code point ends the host of an address. -/
def endsHost (c : CodePoint) : Bool := c == .char '/' || c == .char '?' || c == .char '#'

/-- Whether only one of an opening and a closing bracket occurs in the host that a text would
have as an address. -/
def isMalformed (t : Text) : Bool :=
  let t := visible t
  match ((splitScheme? t).map (·.2)).getD t with
  | .char '/' :: .char '/' :: rest =>
    let host := rest.takeWhile (!endsHost ·)
    host.contains (.char '[') != host.contains (.char ']')
  | _ => false

/-- Whether a text is an address. -/
def isAddress (t : Text) : Bool :=
  match splitScheme? (visible t) with
  | some (scheme, _) => netSchemes.contains (lowerLetters scheme)
  | none => false

/-! ## Reading -/

/-- What stands in front of the last one of some mark, and what stands behind it. -/
def splitLast (mark : CodePoint) (t : Text) : Option (Text × Text) :=
  if t.contains mark then
    let behind := (t.reverse.takeWhile (· != mark)).reverse
    some (t.take (t.length - behind.length - 1), behind)
  else none

/-- Reads an address. Blanks at its ends do not count, and neither does what follows the last
number sign. -/
def read (t : Text) : Address :=
  let t := ((splitLast (.char '#') t.trim).map (·.1)).getD t.trim
  let scheme := t.takeWhile (· != .char ':')
  match t.drop (scheme.length + 1) with
  | .char '/' :: .char '/' :: rest =>
    let host := rest.takeWhile (!endsHost ·)
    let place := rest.drop host.length
    let isRooted := place.isEmpty || Path.isAbsolute place
    ⟨lowerLetters scheme, Text.percentDecoded host, if isRooted then place else .char '/' :: place⟩
  | rest => ⟨lowerLetters scheme, [], rest⟩

/-! ## Reaching -/

def isControl (c : CodePoint) : Bool := c.value ≤ 0x20 || c.value == 0x7F

def isPortDigit : CodePoint → Bool
  | .char c => c.isDigit
  | .lone _ => false

/-- The name of a host and its port, which follows the last colon unless a bracket closes behind
it. -/
def splitPort (host : Text) : Text × Text :=
  match splitLast (.char ':') host with
  | some (name, port) => if port.contains (.char ']') then (host, []) else (name, port)
  | none => (host, [])

/-- The name of a host and its port where what is no number is part of the name. -/
def splitNumber (host : Text) : Text × Text :=
  let (name, port) := splitPort host
  if port.all isPortDigit then (name, port) else (host, [])

/-- Whether a code point is no text, or stands for bytes that are none. -/
def isNoText (c : CodePoint) : Bool := Path.isHalf c || c.value == 0xFFFD

/-- Why a host does not answer. -/
def hostFault (name : Text) : AddressFault :=
  let labels := name.splitOn (.char '.')
  if labels.dropLast.any List.isEmpty || labels.any (63 < ·.length) || name.any isNoText then
    .label
  else if name.contains (.char '\x00') then .nullCharacter
  else .unreachable

/-- Why a request over the net comes to nothing. -/
def requestFault (a : Address) : AddressFault :=
  let (name, port) := splitPort a.host
  if a.host.isEmpty then .unreachable
  else if !port.all isPortDigit || name.any isControl || a.place.any isControl then .spelling
  else if a.place.any (0x7F < ·.value) || a.host.any (0xFF < ·.value) then .letters
  else hostFault name

def isLocal (name : Text) : Bool := lowerLetters name = "localhost" || name = "127.0.0.1"

/-- Whether a file is given out to those who ask a host for it. -/
def askFile (host : Text) : Except AddressFault Unit :=
  let (name, port) := splitNumber host
  if name.isEmpty then .ok ()
  else if !port.isEmpty then .error .unreachable
  else if isLocal name then .ok ()
  else .error (hostFault name)

/-- Something has to be at the place of an address, then the host is asked for it, and then it has
to be a file that may be read, of whatever bytes. A place with two slashes in front needs the host
to be named as this machine. -/
def reachFile (read : Text → Except ReadFault Text) (a : Address) : Except AddressFault Unit :=
  let isDoubled :=
    match a.place with
    | .char '/' :: .char '/' :: rest => !Path.isAbsolute rest
    | _ => false
  if a.place.isEmpty || isDoubled && !(a.host.isEmpty || a.host = "localhost") then
    .error .unreachable
  else
    match read a.place.percentDecoded with
    | .ok _ | .error (.noText _) => askFile a.host
    | .error .forbidden | .error (.path .isFolder) =>
      askFile a.host >>= fun _ => .error .unreachable
    | .error (.path .nullCharacter) => .error (.path .nullCharacter)
    | .error (.path (.noBytes position halves)) => .error (.path (.noBytes position halves))
    | .error (.path _) => .error .unreachable

/-- Reaches what an address is of, where files are read as given. -/
def reach (read : Text → Except ReadFault Text) (a : Address) : Except AddressFault Unit :=
  if a.scheme = "file" then reachFile read a
  else if a.scheme = "http" || a.scheme = "https" then .error (requestFault a)
  else if a.scheme = "ftp" && !a.host.isEmpty then .error (hostFault (splitNumber a.host).1)
  else .error .unreachable

end Address

end InfixLogic.CommandLine
