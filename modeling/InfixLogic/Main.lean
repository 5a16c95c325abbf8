import InfixLogic.CommandLine.Run

/- The program: it reads the file it is asked to read, runs, and carries out what the run leaves
   behind. -/

namespace InfixLogic.CommandLine

/-- The folder as far as a request looks into it: one file that may be read, and paths that are
tried when they are written. What keeps the path from leading to a file is told as a missing file,
whatever it is. -/
def folderOf (r : Request) : IO Folder := do
  let path := r.tokensFile.getD []
  let held ← (IO.FS.readBinFile path.shown).toBaseIO
  let text : Except ReadFault Text :=
    match held with
    | .ok bytes => (Text.ofUtf8 bytes.toList).mapError .noText
    | .error (.permissionDenied ..) => .error .forbidden
    | .error _ => .error (.path .missing)
  pure { read := fun _ => text, prepare := fun _ => .ok (), create := fun _ => .ok () }

/-- Carries out what a run leaves behind, and gives its exit status. -/
def conclude (level : LogLevel) (t : Transcript) (e : Ending) : IO UInt32 := do
  (← IO.getStderr).putStr (LogEntry.render level t.log).shown
  (← IO.getStdout).putStr t.printed.shown
  for f in t.written do
    match f.content? with
    | some text => IO.FS.writeFile f.path.shown text.shown
    | none => throw (IO.userError "there is no support for packed files")
  match e with
  | .status n => pure n.toUInt32
  | .noLevel | .noAssignment | .noKey | .tooDeep | .unwritable _ => pure 1

end InfixLogic.CommandLine

open InfixLogic InfixLogic.CommandLine in
/-- Evaluates the expression of the command line. -/
def main (args : List String) : IO UInt32 := do
  match Request.parse (args.map Text.ofString) with
  | .help =>
    IO.println "Options: --tokens-file FILE, --set VAR=BOOL, --table, --output FILE, --palette,"
    IO.println "--log-level DEBUG|INFO|WARNING|ERROR. Any other argument is the expression."
    pure 0
  | .usage =>
    (← IO.getStderr).putStrLn "usage"
    pure 2
  | .request r =>
    let (level, t, e) := carryOut (← folderOf r) r
    conclude level t e
