/-!
# `Log` — what is reported along the way

Every part of the library that has something to report makes lines; where they go, and from which
level on, is decided outside. A line says which part it is from.
-/

set_option autoImplicit false

namespace MetesBounds

/-- How much a line matters. -/
inductive Level where
  | debug | info | warning | error
  deriving DecidableEq

namespace Level

/-- Levels in numbers. -/
def number : Level → Nat
  | debug => 10
  | info => 20
  | warning => 30
  | error => 40

/-- Levels in words. -/
def name : Level → String
  | debug => "DEBUG"
  | info => "INFO"
  | warning => "WARNING"
  | error => "ERROR"

end Level

/-- The parts that report. -/
inductive Source where
  | command | curve | evaluation | sheet | audit
  deriving DecidableEq

/-- The name of a part. -/
def Source.name : Source → String
  | command => "traverse.cli"
  | curve => "traverse.arcs"
  | evaluation => "TraverseInterpreter"
  | sheet => "RecordFileLoader"
  | audit => "audit"

/-- One line of a log. -/
structure Line where
  source : Source
  level : Level
  message : String

/-- The lines of at least a level. -/
def Line.from (least : Int) (log : List Line) : List Line :=
  log.filter fun line => decide (least ≤ line.level.number)

end MetesBounds
