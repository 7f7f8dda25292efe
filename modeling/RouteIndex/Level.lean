/-
  Levels of log events, from the most to the least talkative.
-/

namespace RouteIndex

/-- How important an event is. -/
inductive Level where
  | trace
  | debug
  | info
  | warn
  | error
  deriving DecidableEq, Repr, Inhabited

namespace Level

/-- Every level once, least important first. -/
def all : List Level :=
  [.trace, .debug, .info, .warn, .error]

/-- The name of a level in log lines. -/
def name : Level → String
  | .trace => "TRACE"
  | .debug => "DEBUG"
  | .info => "INFO"
  | .warn => "WARN"
  | .error => "ERROR"

/-- The name of a level on the command line and in filters. -/
def lowerName : Level → String
  | .trace => "trace"
  | .debug => "debug"
  | .info => "info"
  | .warn => "warn"
  | .error => "error"

/-- The importance of a level as a number. -/
def rank : Level → Nat
  | .trace => 0
  | .debug => 1
  | .info => 2
  | .warn => 3
  | .error => 4

/-- The level of a name in upper or lower case.  Only ASCII letters have another case here: no other
character has one of the letters of these names as its lower case. -/
def ofName? (s : String) : Option Level :=
  all.find? fun l => l.lowerName.toList = s.toList.map Char.toLower

end Level

end RouteIndex
