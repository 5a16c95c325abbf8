import InfixLogic.Connective
import InfixLogic.Value

/- Settings of the engine, and the conditions they have to meet.

   `violation?` names the first condition that fails, in a fixed order. Settings without a
   violation rank NOT above AND above OR, and keep constants apart from free variables. -/

namespace InfixLogic

structure Settings where
  freeVariables : List Text
  constants : List (Text × Bool)
  precedence : List (Text × Int)
  rightAssociative : List Text
  errorSentinel : Value
  cacheSize : Int
  level : Text

/-- A condition on settings that is not met. -/
inductive Violation where
  | precedenceNames
  | precedenceOrder
  | rightAssociativeNames
  | constantsAreFree
  | sentinelIsTruth
  | negativeCacheSize
  | unknownLevel
  deriving DecidableEq, Repr

def Violation.message : Violation → Text
  | .precedenceNames => "三个操作符都需要优先级"
  | .precedenceOrder => "优先级必须是 NOT > AND > OR"
  | .rightAssociativeNames => "右结合操作符必须已定义"
  | .constantsAreFree => "常量不能同时是自由变量"
  | .sentinelIsTruth => "错误标记不能是布尔值"
  | .negativeCacheSize => "缓存大小不能为负"
  | .unknownLevel => "未知的日志级别"

namespace Settings

def standard : Settings where
  freeVariables := ["A", "B", "C"]
  constants := [("TRUE", true), ("FALSE", false)]
  precedence := [("NOT", 3), ("AND", 2), ("OR", 1)]
  rightAssociative := ["NOT"]
  errorSentinel := .str "—"
  cacheSize := 1000
  level := "INFO"

def levelNames : List Text :=
  ["CRITICAL", "FATAL", "ERROR", "WARN", "WARNING", "INFO", "DEBUG", "NOTSET"]

/-- The precedence of a connective; one that is not set is zero. -/
def rank (s : Settings) (c : Connective) : Int := (s.precedence.lookup c.name).getD 0

/-- Every connective has a precedence, and nothing else has one. -/
def ranksConnectives (s : Settings) : Bool :=
  Connective.all.all (fun c => (s.precedence.lookup c.name).isSome) &&
    s.precedence.all (fun p => (Connective.ofName? p.1).isSome)

/-- The value is a truth value. -/
def isTruth : Value → Bool
  | .bool _ => true
  | _ => false

/-- The conditions on settings in the order in which they are checked, each with the verdict
on it. -/
def conditions (s : Settings) : List (Violation × Bool) := [
  (.precedenceNames, s.ranksConnectives),
  (.precedenceOrder, s.rank .and < s.rank .not && s.rank .or < s.rank .and),
  (.rightAssociativeNames, s.rightAssociative.all fun n => (s.precedence.lookup n).isSome),
  (.constantsAreFree, s.freeVariables.all fun n => (s.constants.lookup n).isNone),
  (.sentinelIsTruth, !isTruth s.errorSentinel),
  (.negativeCacheSize, 0 ≤ s.cacheSize),
  (.unknownLevel, levelNames.contains s.level)]

/-- The first condition that is not met. -/
def violation? (s : Settings) : Option Violation :=
  (s.conditions.find? fun c => !c.2).map (·.1)

/-- The settings the engine comes with meet every condition. -/
theorem violation?_standard : standard.violation? = none := rfl

end Settings

end InfixLogic
