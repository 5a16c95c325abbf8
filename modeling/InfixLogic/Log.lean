import InfixLogic.Evaluation

/- The log: what each part of the program tells while it works.

   What is told is a function of what happened, so the parts themselves stay silent and their
   entries are read off their results. -/

namespace InfixLogic

inductive LogLevel where
  | debug
  | info
  | warning
  | error
  deriving DecidableEq, Repr

namespace LogLevel

def all : List LogLevel := [.debug, .info, .warning, .error]

def name : LogLevel → Text
  | .debug => "DEBUG"
  | .info => "INFO"
  | .warning => "WARNING"
  | .error => "ERROR"

def rank : LogLevel → Nat
  | .debug => 0
  | .info => 1
  | .warning => 2
  | .error => 3

def ofName? (n : Text) : Option LogLevel := all.find? fun l => l.name == n

end LogLevel

/-- The part of the program that an entry comes from. -/
inductive LogSource where
  | program
  | tokens
  | converter
  | machine
  | evaluator
  | settings
  | table
  deriving DecidableEq, Repr

def LogSource.name : LogSource → Text
  | .program => "main"
  | .tokens => "logic.token_system"
  | .converter => "logic.converter"
  | .machine => "logic.rpn_evaluator"
  | .evaluator => "logic.evaluator"
  | .settings => "config.config"
  | .table => "truthtable.enumerator"

structure LogEntry where
  source : LogSource
  level : LogLevel
  message : Text
  deriving DecidableEq, Repr

namespace LogEntry

def line (e : LogEntry) : Text :=
  e.source.name ++ " - " ++ e.level.name ++ " - " ++ e.message ++ "\n"

/-- The lines of the entries that are at least of a level. -/
def render (threshold : LogLevel) (es : List LogEntry) : Text :=
  (es.filter fun e => threshold.rank ≤ e.level.rank).flatMap line

/-- What is told about a text that has been split into tokens. -/
def ofTokens (t : Text) (ts : List Token) : List LogEntry :=
  [⟨.tokens, .debug,
    "Tokenized " ++ t.quoted ++ " into " ++ Text.ofNat ts.length ++ " tokens"⟩]

/-- What is told about a finished conversion. -/
def ofPostfix (ts : List Token) : List LogEntry :=
  [⟨.converter, .debug, "RPN: " ++ Text.join " " (ts.map Token.label)⟩]

/-- What is told about a run of the postfix machine that fails. -/
def ofRun : Except Fault Bool → List LogEntry
  | .error (.unknownOperator t _) => [⟨.machine, .debug, "Unknown operator in RPN: " ++ t.written⟩]
  | .error (.starved c _) => [⟨.machine, .debug, "Insufficient operands for " ++ c.name⟩]
  | .error (.leftover n) =>
    [⟨.machine, .debug, "Stack has " ++ Text.ofNat n ++ " elements after evaluation, expected 1"⟩]
  | _ => []

end LogEntry

namespace Vocabulary

/-- What is told while an expression is evaluated. -/
def evaluateLog (v : Vocabulary) (items : List Item) (env : Text → Bool) : List LogEntry :=
  match v.compile items with
  | .ok ts => LogEntry.ofPostfix ts ++ LogEntry.ofRun (v.run .truth env (Token.items ts))
  | .error _ => []

/-- What is told while an outcome is found: a failure is told with its expression. -/
def outcomeLog (v : Vocabulary) (items : List Item) (env : Environment) : List LogEntry :=
  v.evaluateLog items env.truth ++
    match v.outcome items env with
    | .failure r =>
      [⟨.evaluator, .debug, "Expression '" ++ v.format items ++ "' failed: " ++ r.message⟩]
    | .success _ => []

end Vocabulary

end InfixLogic
