import InfixLogic.CommandLine.Address

/- Destinations of a table.

   Any text is read as an address first, and two slashes start a host, whose brackets have to
   match. One that starts with the scheme of a network protocol is an address; one that starts
   with any other scheme and two slashes is a kind of storage that there is no support for; all
   others are paths. -/

namespace InfixLogic.CommandLine

/-- What a text is as a destination. -/
inductive Destination where
  | path
  | address (a : Address)
  | foreignStorage
  deriving DecidableEq, Repr

namespace Destination

/-- Whether a text names a kind of storage by a scheme. -/
def isForeignStorage (t : Text) : Bool :=
  match Address.splitScheme? t with
  | some (_, .char '/' :: .char '/' :: _) => true
  | _ => false

def read (t : Text) : Except AddressFault Destination :=
  if Address.isMalformed t then .error .brackets
  else if Address.isAddress t then .ok (.address (.read t))
  else if isForeignStorage t then .ok .foreignStorage
  else .ok .path

end Destination

end InfixLogic.CommandLine
