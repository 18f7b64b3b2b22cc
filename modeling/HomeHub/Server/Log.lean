import HomeHub.Number.Digits

/-!
# The log

Lines are shown down to a level that is given by name in any case, or by a number from one for
errors to five for traces.
-/
namespace HomeHub

inductive LogLevel where
  | error
  | warn
  | info
  | debug
  | trace
  deriving DecidableEq, Repr, Inhabited

namespace LogLevel

/-- All levels, the gravest first. -/
def all : List LogLevel := [error, warn, info, debug, trace]

def name : LogLevel → String
  | error => "ERROR"
  | warn => "WARN"
  | info => "INFO"
  | debug => "DEBUG"
  | trace => "TRACE"

def ofName? (text : String) : Option LogLevel :=
  all.find? fun level => level.name = String.ofList (text.toList.map Char.toUpper)

/-- The level of a number, counted from one. -/
def ofNumber? (text : String) : Option LogLevel :=
  match readUpTo? all.length text with
  | some (n + 1) => all[n]?
  | _ => none

/-- The level that is asked for; anything else means `info`. -/
def read (text : Option String) : LogLevel :=
  (text.bind fun text => (ofNumber? text).or (ofName? text)).getD info

def isShown (limit level : LogLevel) : Bool := decide (all.idxOf level ≤ all.idxOf limit)

end LogLevel

structure LogLine where
  level : LogLevel
  message : String
  deriving DecidableEq, Repr

end HomeHub
