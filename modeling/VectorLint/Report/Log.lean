/-!
# Log records

Whatever a lint run does is logged. Each record names its logger, and loggers form a tree: the name
of a child is the name of its parent, a point, and a name of its own. Records are kept in the order
in which they are made; who shows them may leave out those below a level.
-/

namespace VectorLint.Log

/-- How important a record is. -/
inductive Level where
  | debug
  | info
  | warning
  | error
  deriving DecidableEq, Repr

/-- The name of a level, as records show it. -/
def Level.name : Level → String
  | .debug => "DEBUG"
  | .info => "INFO"
  | .warning => "WARNING"
  | .error => "ERROR"

/-- The place of a level in the order of importance. -/
def Level.rank : Level → Nat
  | .debug => 0
  | .info => 1
  | .warning => 2
  | .error => 3

/-- One record of the log. -/
structure Record where
  logger : String
  level : Level
  message : String
  deriving DecidableEq, Repr

/-- Whether a record is at least as important as a level. -/
def Record.reaches (r : Record) (level : Level) : Bool := level.rank ≤ r.level.rank

/-- A record that only matters to who looks for a mistake. -/
def Record.debug (logger message : String) : Record := ⟨logger, .debug, message⟩

/-- The name of a child of a logger. -/
def child (logger name : String) : String := logger ++ "." ++ name

end VectorLint.Log
