import InfixLogic.Log
import InfixLogic.Text.Numeral

/- The arguments of the command line.

   Each argument is classed first: `--` ends the options, an argument that starts with a dash
   is an option unless it looks like a negative number or holds a space, and everything else
   stands for itself. An option may be cut short as long as one option is left that it starts,
   and may carry its value behind an equals sign, where two dashes count as no value. Then the
   classed arguments are gone through once; what finds no use is an error of usage. -/

namespace InfixLogic.CommandLine

/-- What an option does. -/
inductive Switch where
  | help
  | tokensFile
  | set
  | table
  | output
  | palette
  | logLevel
  deriving DecidableEq, Repr

namespace Switch

def spellings : List (Text × Switch) := [
  ("-h", .help), ("--help", .help), ("--tokens-file", .tokensFile), ("--set", .set),
  ("--table", .table), ("--output", .output), ("--palette", .palette),
  ("--log-level", .logLevel)]

end Switch

/-- An argument with its class. A switch has the value that is attached to it, if there is one.
Behind `-h`, the only option of one letter, more letters may follow as further options. -/
inductive Argument where
  | separator
  | positional (t : Text)
  | switch (s : Switch) (value : Option Text)
  | helpLetters (more : Text)
  | unknown (t : Text)
  deriving DecidableEq, Repr

namespace Argument

/-- Whether a text is a dash and a decimal number; a newline may follow it. -/
def looksNegative (t : Text) : Bool :=
  match t with
  | .char '-' :: rest =>
    let number := if rest.getLast? = some (.char '\n') then rest.dropLast else rest
    match number.dropWhile CodePoint.isDigit with
    | [] => !number.isEmpty
    | .char '.' :: ds => !ds.isEmpty && ds.all CodePoint.isDigit
    | _ => false
  | _ => false

/-- A text up to its first equals sign, and what follows the sign. -/
def splitAtEquals (t : Text) : Text × Option Text :=
  match t.dropWhile (· != .char '=') with
  | [] => (t, none)
  | _ :: value => (t.takeWhile (· != .char '='), some value)

/-- What an argument which is no full spelling may stand for. Behind two dashes an option may be
cut short. -/
def candidates (t : Text) : List Argument :=
  match t with
  | .char '-' :: .char '-' :: _ =>
    let (name, value) := splitAtEquals t
    Switch.spellings.filterMap fun p =>
      if name.isPrefixOf p.1 then some (.switch p.2 value) else none
  | .char '-' :: .char 'h' :: more => [.helpLetters more]
  | _ => []

/-- The class of an argument in front of `--`; nothing if it may stand for several options. -/
def classify? (t : Text) : Option Argument :=
  match t with
  | .char '-' :: _ :: _ =>
    let (name, value) := splitAtEquals t
    match Switch.spellings.lookup t, Switch.spellings.lookup name with
    | some s, _ => some (.switch s none)
    | none, some s => if name = "-h" then value.map .helpLetters else some (.switch s value)
    | none, none =>
      match candidates t with
      | [a] => some a
      | _ :: _ :: _ => none
      | [] =>
        if looksNegative t || t.contains (.char ' ') then some (.positional t)
        else some (.unknown t)
  | _ => some (.positional t)

/-- The classes of all arguments. Behind `--` every argument stands for itself. -/
def classifyAll? : List Text → Option (List Argument)
  | [] => some []
  | t :: rest =>
    if t = "--" then some (.separator :: rest.map .positional)
    else do
      let a ← classify? t
      let as ← classifyAll? rest
      pure (a :: as)

end Argument

/-- What the arguments ask for. The field of an option that is not given is empty, but for the
level, which has a default. An option that is given without a value empties its field; an
assignment that is given so stays in the list as one without a text. -/
structure Request where
  expression : Option Text
  tokensFile : Option Text
  assignments : List (Option Text)
  table : Bool
  output : Option Text
  palette : Bool
  level : Option LogLevel
  deriving DecidableEq, Repr

/-- What becomes of the arguments: a request, a plea for help, or an error of usage. -/
inductive Parsed where
  | request (r : Request)
  | help
  | usage
  deriving DecidableEq, Repr

namespace Request

def default : Request := ⟨none, none, [], false, none, false, some .info⟩

/-- The value that is attached to an option. Two dashes are not one: they only end options. -/
def attached? (value : Text) : Option Text := if value = "--" then none else some value

/-- A request with the value of an option, or without it; nothing if the option does not take
it. -/
def withValue? (r : Request) (value : Option Text) : Switch → Option Request
  | .tokensFile => some { r with tokensFile := value }
  | .set => some { r with assignments := r.assignments ++ [value] }
  | .output => some { r with output := value }
  | .logLevel =>
    match value with
    | none => some { r with level := none }
    | some name => (LogLevel.ofName? name).map fun l => { r with level := some l }
  | .help | .table | .palette => none

/-- Goes through classed arguments. `isOpen` says that no expression has been given yet, and
`extra` that some argument has found no use. -/
def collect (r : Request) (isOpen extra : Bool) : List Argument → Parsed
  | [] => if extra then .usage else .request r
  | .positional t :: .separator :: rest =>
    if isOpen then collect { r with expression := some t } false extra rest
    else collect r false true rest
  | .positional t :: rest =>
    if isOpen then collect { r with expression := some t } false extra rest
    else collect r false true rest
  | .separator :: .positional t :: rest =>
    if isOpen then collect { r with expression := some t } false extra rest
    else collect r false true rest
  | .separator :: rest => collect r false (extra || !isOpen) rest
  | .unknown _ :: rest => collect r isOpen true rest
  | .helpLetters more :: _ =>
    if !more.isEmpty && more.all (· == .char 'h') then .help else .usage
  | .switch .help none :: _ => .help
  | .switch .table none :: rest => collect { r with table := true } isOpen extra rest
  | .switch .palette none :: rest => collect { r with palette := true } isOpen extra rest
  | .switch s (some value) :: rest =>
    match r.withValue? (attached? value) s with
    | some r => collect r isOpen extra rest
    | none => .usage
  | .switch s none :: .positional value :: rest =>
    match r.withValue? (some value) s with
    | some r => collect r isOpen extra rest
    | none => .usage
  | .switch _ none :: _ => .usage

/-- What arguments ask for. -/
def parse (argv : List Text) : Parsed :=
  match Argument.classifyAll? argv with
  | some as => collect default true false as
  | none => .usage

end Request

end InfixLogic.CommandLine
