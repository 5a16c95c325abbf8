import InfixLogic.CommandLine.Folder

/- A disk that holds a working folder.

   Places are named by the steps that lead to them from the root. The working folder stands among
   the temporary files under a name that no path can spell; what surrounds it is the customary
   hierarchy of folders, which holds a sink and a few files. All of them are texts, and any may be
   read. A path is walked step by step, and the first step that fails decides: a step needs a
   folder to go on from, it must not be too long, and at the end something has to be there. -/

namespace InfixLogic.CommandLine

/-- What stands at a place. A sink is a file that holds nothing and keeps nothing. -/
inductive Node where
  | folder
  | file (text : Text)
  | sink
  deriving DecidableEq, Repr

/-- A disk: its files with the places they stand at. -/
structure Disk where
  files : List (List Text × Text)
  deriving DecidableEq, Repr

namespace Disk

def workplace : List Text := ["tmp", []]

def home : Text := "/root"

def sink : List Text := ["dev", "null"]

/-- The places of the customary folders. -/
def customaryFolders : List (List Text) := [
  ["bin"], ["boot"], ["dev"], ["dev", "shm"], ["etc"], ["home"], ["lib"], ["media"], ["mnt"],
  ["opt"], ["proc"], ["root"], ["run"], ["sbin"], ["srv"], ["sys"], ["tmp"], ["usr"],
  ["usr", "bin"], ["usr", "lib"], ["usr", "local"], ["usr", "sbin"], ["usr", "share"], ["var"],
  ["var", "cache"], ["var", "lib"], ["var", "log"], ["var", "tmp"]]

def customaryFiles : List (List Text × Text) := [
  (["etc", "group"], "root:x:0:\n"),
  (["etc", "hosts"], "127.0.0.1\tlocalhost\n"),
  (["etc", "passwd"], "root:x:0:0:root:/root:/bin/sh\n")]

/-- The disk whose working folder holds the given files, by path and text. -/
def ofFiles (files : List (Text × Text)) : Disk :=
  ⟨files.map (fun f => (workplace ++ Path.moves f.1, f.2)) ++ customaryFiles⟩

/-- What stands at a place. -/
def node? (d : Disk) (place : List Text) : Option Node :=
  if place = sink then some .sink
  else
    match d.files.lookup place with
    | some t => some (.file t)
    | none =>
      if place = [] || place = workplace || customaryFolders.contains place ||
          d.files.any (fun f => place.isPrefixOf f.1) then
        some .folder
      else none

/-- The place that steps lead to. -/
def walk (d : Disk) (place : List Text) : List Text → Except PathFault (List Text)
  | [] => if (d.node? place).isSome then .ok place else .error .missing
  | step :: rest =>
    match d.node? place with
    | none => .error .missing
    | some .folder =>
      if step = Path.stay then d.walk place rest
      else if step = Path.leave then d.walk place.dropLast rest
      else if Path.maxStepBytes < Path.byteCount step then .error .tooLong
      else d.walk (place ++ [step]) rest
    | some _ => .error .notFolder

/-- The place that a path starts from. -/
def start (path : Text) : List Text := if Path.isAbsolute path then [] else workplace

/-! ## Reading -/

/-- The text of the file at a path. A slash at the end is one more step that stays in place. -/
def read (d : Disk) (path : Text) : Except PathFault Text :=
  match Path.fault? path with
  | some f => .error f
  | none => do
    let steps := Path.steps path ++ (if Path.endsInSlash path then [Path.stay] else [])
    match d.node? (← d.walk (start path) steps) with
    | some (.file t) => .ok t
    | some .sink => .ok []
    | some .folder => .error .isFolder
    | none => .error .missing

/-! ## Writing -/

/-- A path where a tilde in front, with the user's name or none behind it, stands for the user's
own folder. What cannot be looked up as a name is a fault; a name that nobody has stays. -/
def expand (path : Text) : Except PathFault Text :=
  match path with
  | .char '~' :: rest =>
    let name := rest.takeWhile (· != .char '/')
    if name = [] || name = "root" then .ok (home ++ rest.drop name.length)
    else
      match Path.fault? name with
      | none | some .tooLong => .ok path
      | some f => .error f
  | _ => .ok path

/-- Whether the folder that is to hold the file of a path is there. Steps of the path that stay
in place do not count. -/
def hasParent (d : Disk) (path : Text) : Bool :=
  let parent := (Path.moves path).dropLast
  let written := (if Path.isAbsolute path then ("/" : Text) else []) ++ Text.join "/" parent
  (Path.fault? written).isNone &&
    match d.walk (start path) parent with
    | .ok place => d.node? place == some .folder
    | .error _ => false

/-- The place where the file of a path is to stand. There may be a file already, but no folder. -/
def target (d : Disk) (path : Text) : Except PathFault (List Text) :=
  match Path.fault? path, (Path.steps path).getLast? with
  | some f, _ => .error f
  | none, none => .error .isFolder
  | none, some last => do
    let place ← d.walk (start path) (Path.steps path).dropLast
    if d.node? place != some .folder then .error .notFolder
    else if last = Path.stay || last = Path.leave || Path.endsInSlash path then .error .isFolder
    else if Path.maxStepBytes < Path.byteCount last then .error .tooLong
    else if d.node? (place ++ [last]) == some .folder then .error .isFolder
    else .ok (place ++ [last])

/-- Whether the folder is there that is to hold the file of a path. -/
def prepare (d : Disk) (path : Text) : Except WriteFault Unit :=
  match expand path with
  | .error f => .error (.path f)
  | .ok path => if d.hasParent path then .ok () else .error .noParent

/-- The place where the file of a path is written. -/
def writePlace (d : Disk) (path : Text) : Except PathFault (List Text) :=
  expand path >>= d.target

/-- The name in the working folder of a file that is new when it is written. -/
def newName? (d : Disk) (path : Text) : Option Text :=
  match d.writePlace path with
  | .ok place =>
    if workplace.isPrefixOf place && (d.node? place).isNone then
      some (Text.join "/" (place.drop workplace.length))
    else none
  | .error _ => none

/-- The working folder as the program sees it. -/
def folder (d : Disk) : Folder where
  read path := (d.read path).mapError .path
  prepare := d.prepare
  create path := (d.writePlace path).map fun _ => ()

end Disk

end InfixLogic.CommandLine
