import InfixLogic.Assignment
import InfixLogic.CommandLine.Arguments
import InfixLogic.CommandLine.Destination
import InfixLogic.CommandLine.Folder
import InfixLogic.CommandLine.OutputFile
import InfixLogic.Surface
import InfixLogic.Transport
import InfixLogic.TruthTable.Frame

/- A run of the program, as a function from the command line and the folder it works in to
   everything it leaves behind: its log, what it prints, the files it writes and how it ends. -/

namespace InfixLogic.CommandLine

/-- How a run ends: with an exit status, or cut short. -/
inductive Ending where
  | status (n : Nat)
  /-- The log has no level. -/
  | noLevel
  /-- An assignment has no text. -/
  | noAssignment
  /-- A list or object was to be looked up in a table. -/
  | noKey
  /-- A document is nested too deeply. -/
  | tooDeep
  /-- A file cannot be written. -/
  | unwritable (f : WriteFault)
  deriving DecidableEq, Repr

/-- What a run, or a part of one, leaves behind. -/
structure Transcript where
  log : List LogEntry
  printed : Text
  written : List OutputFile
  deriving DecidableEq, Repr

namespace Transcript

def empty : Transcript := ⟨[], [], []⟩

def append (a b : Transcript) : Transcript :=
  ⟨a.log ++ b.log, a.printed ++ b.printed, a.written ++ b.written⟩

instance : Append Transcript := ⟨append⟩

def ofLog (es : List LogEntry) : Transcript := ⟨es, [], []⟩

def ofLine (t : Text) : Transcript := ⟨[], t ++ "\n", []⟩

def ofFiles (files : List OutputFile) : Transcript := ⟨[], [], files⟩

def note (level : LogLevel) (message : Text) : Transcript := ofLog [⟨.program, level, message⟩]

end Transcript

/-! ## The parts of a run -/

/-- The line of a token in the list of all tokens. -/
def paletteLine (v : Vocabulary) (t : Token) : Text :=
  Text.alignLeft 6 t.label ++ " " ++ (v.encode t).written

def palette (v : Vocabulary) : Transcript :=
  ⟨[], (v.tokens.map (paletteLine v)).flatMap (· ++ "\n"), []⟩

/-- Why there is no expression: a message, or what cuts the run short. -/
inductive LoadFault where
  | message (t : Text)
  | cut (e : Ending)
  deriving DecidableEq, Repr

/-- The tokens of a document, for a run. What the reader has to say about a text that is no JSON is
left out, and a fixed text stands in its place. -/
def loadDocument (v : Vocabulary) (document : Text) : Except LoadFault (List Token) :=
  match v.load document with
  | .ok ts => .ok ts
  | .error (.fault f) => .error (.message f.message)
  | .error .noKey => .error (.cut .noKey)
  | .error (.json (.longNumber digits)) => .error (.message (Json.longNumberMessage digits))
  | .error (.json .tooDeep) => .error (.cut .tooDeep)
  | .error _ => .error (.message "<invalid JSON>")

/-- The tokens that a request is about, and what is told while they are found. A file of tokens
goes before an expression. -/
def loadTokens (v : Vocabulary) (folder : Folder) (r : Request) :
    Transcript × Except LoadFault (List Token) :=
  match r.tokensFile with
  | some (c :: cs) =>
    let path := c :: cs
    let told := Transcript.note .info ("Loading tokens from " ++ path)
    match folder.read path with
    | .ok document => (told, loadDocument v document)
    | .error f => (told, .error (.message (f.message path)))
  | _ =>
    let text := r.expression.getD []
    match v.tokenize text with
    | .ok ts => (.ofLog (LogEntry.ofTokens text ts), .ok ts)
    | .error f => (.empty, .error (.message f.message))

/-- Truth values of names as they are shown: `A=true, B=false`. -/
def shownInputs (inputs : List (Text × Bool)) : Text :=
  Text.join ", " (inputs.map fun p => p.1 ++ "=" ++ Frame.displayed (.truth p.2))

/-- The line of an outcome. -/
def outcomeLine (inputs : List (Text × Bool)) : Outcome → Text
  | .success b =>
    "Result: " ++ Text.upper (Value.bool b).written ++ "  (evaluated under " ++ shownInputs inputs ++
      ")"
  | .failure r => "Error: " ++ r.message

/-- What is told while a truth table is built. -/
def tableLog (v : Vocabulary) (items : List Item) (rows : List Row) : List LogEntry :=
  let failed := (Counts.ofRows rows).errors
  rows.flatMap (fun r => v.evaluateLog items (Environment.ofBools r.assignment).truth) ++
    (if failed = 0 then []
     else [⟨.table, .debug, Text.ofNat failed ++ "/" ++ Text.ofNat rows.length ++
       " rows failed for '" ++ v.format items ++ "'"⟩])

def tableSummary (rows : List Row) : Text :=
  let counts := Counts.ofRows rows
  "Truth table: " ++ Text.ofNat rows.length ++ " rows, " ++ Text.ofNat counts.trues ++ " true, " ++
    Text.ofNat counts.falses ++ " false, " ++ Text.ofNat counts.errors ++ " errors"

/-- Sends a text to a destination: the files that are written, or why it cannot be sent. What is
sent to an address goes nowhere once the address is reached. -/
def deliver (folder : Folder) (path text : Text) : Except WriteFault (List OutputFile) := do
  let support : Except WriteFault Unit :=
    if Packing.ofPath path = .unsupported then .error .unsupported else .ok ()
  match ← (Destination.read path).mapError .address with
  | .foreignStorage => .error .unsupported
  | .address a =>
    (a.reach folder.read).mapError .address
    support
    pure []
  | .path =>
    folder.prepare path
    support
    (folder.create path).mapError .path
    pure [⟨path, text⟩]

/-- The truth table as a file, and why it cannot be written. -/
def writeTable (folder : Folder) (frame : Frame) (path : Text) : Transcript × Option WriteFault :=
  match deliver folder path frame.csv with
  | .ok files =>
    (.ofFiles files ++
      .ofLog [⟨.table, .info, "Truth table with " ++ Text.ofNat frame.rows.length ++
        " rows saved to " ++ path⟩], none)
  | .error f => (.empty, some f)

/-- The truth table of an expression, printed and written as the request asks, and why it cannot
be written. -/
def showTable (v : Vocabulary) (folder : Folder) (r : Request) (items : List Item) :
    Transcript × Option WriteFault :=
  let path := r.output.getD []
  if !r.table && path.isEmpty then (.empty, none)
  else
    let rows := v.truthTable items
    if rows.isEmpty then
      (.ofLine "Add A, B, or C to the expression to generate a table.", none)
    else
      let frame := (Frame.ofRows rows none).format
      let told := Transcript.ofLog (tableLog v items rows) ++ .note .info (tableSummary rows) ++
        (if r.table then .ofLine frame.aligned else .empty)
      if path.isEmpty then (told, none)
      else
        let (file, fault) := writeTable folder frame path
        (told ++ file, fault)

def exitStatus (o : Outcome) : Nat := if o.isSuccess then 0 else 1

/-- Evaluates an expression and shows what the request asks for. -/
def answer (v : Vocabulary) (folder : Folder) (r : Request) (inputs : List (Text × Bool))
    (items : List Item) : Transcript × Ending :=
  let env := Environment.ofBools inputs
  let o := v.outcome items env
  let told := Transcript.note .info ("Expression: " ++ v.format items) ++
    .ofLog (v.outcomeLog items env) ++ .ofLine (outcomeLine inputs o)
  match showTable v folder r items with
  | (table, none) => (told ++ table, .status (exitStatus o))
  | (table, some f) => (told ++ table, .unwritable f)

/-! ## A whole run -/

/-- The truth values that the assignments of a request lead to. They are carried out in order, so
that a fault goes before a later one that has no text. -/
def inputs (v : Vocabulary) (r : Request) : Except LoadFault (List (Text × Bool)) :=
  let texts := (r.assignments.takeWhile (·.isSome)).filterMap id
  match Assignment.parse v.freeVariables texts with
  | .error f => .error (.message f.message)
  | .ok values => if r.assignments.contains none then .error (.cut .noAssignment) else .ok values

/-- Carries out a request, whatever the level of the log. -/
def perform (v : Vocabulary) (folder : Folder) (r : Request) : Transcript × Ending :=
  let checked := Transcript.ofLog
    [⟨.settings, .debug, "Configuration validated successfully!"⟩]
  if r.palette then (checked ++ palette v, .status 0)
  else if (r.expression.getD []).isEmpty && (r.tokensFile.getD []).isEmpty then
    (checked ++ .note .error "No expression given (use EXPRESSION or --tokens-file)", .status 2)
  else
    match inputs v r with
    | .error (.message m) => (checked ++ .note .error m, .status 2)
    | .error (.cut e) => (checked, e)
    | .ok inputs =>
      match loadTokens v folder r with
      | (told, .error (.message m)) => (checked ++ told ++ .note .error m, .status 2)
      | (told, .error (.cut e)) => (checked ++ told, e)
      | (told, .ok ts) =>
        let (shown, ending) := answer v folder r inputs (Token.items ts)
        (checked ++ told ++ shown, ending)

/-- Carries out a request with the standard settings, and gives the level of its log. Without a
level nothing is done. -/
def carryOut (folder : Folder) (r : Request) : LogLevel × Transcript × Ending :=
  match r.level with
  | none => (.info, .empty, .noLevel)
  | some level => (level, perform .standard folder r)

/-- What a command line leads to. -/
inductive Run where
  | finished (level : LogLevel) (t : Transcript) (e : Ending)
  | help
  | usage
  deriving DecidableEq, Repr

def run (folder : Folder) (argv : List Text) : Run :=
  match Request.parse argv with
  | .help => .help
  | .usage => .usage
  | .request r =>
    let (level, t, e) := carryOut folder r
    .finished level t e

end InfixLogic.CommandLine
