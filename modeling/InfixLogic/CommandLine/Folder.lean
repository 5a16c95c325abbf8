import InfixLogic.CommandLine.Address

/- The folder that the program works in.

   A file is read at a path as a text. Writing one takes two steps, since it is decided in between
   in which form the file is stored: first the folder that is to hold it has to be there, and then
   the path has to lead to a file. -/

namespace InfixLogic.CommandLine

/-- Why a file cannot be written. -/
inductive WriteFault where
  | noParent
  | path (f : PathFault)
  /-- The destination is an address that is not reached. -/
  | address (f : AddressFault)
  /-- The destination is a kind of storage, or takes a form of file, that is not supported. -/
  | unsupported
  deriving DecidableEq, Repr

/-- A folder as the program sees it. -/
structure Folder where
  read : Text → Except ReadFault Text
  prepare : Text → Except WriteFault Unit
  create : Text → Except PathFault Unit

end InfixLogic.CommandLine
