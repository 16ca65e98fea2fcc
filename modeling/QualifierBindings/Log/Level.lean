/-! Severity levels of log records and the thresholds that let them pass.
-/

namespace QualifierBindings

/-- The severity of a log record. -/
inductive Level where
  | error
  | warn
  | info
  | debug
  | trace
deriving DecidableEq

namespace Level

/-- More verbose levels rank higher. -/
def rank : Level → Nat
  | .error => 1
  | .warn => 2
  | .info => 3
  | .debug => 4
  | .trace => 5

def name : Level → String
  | .error => "error"
  | .warn => "warn"
  | .info => "info"
  | .debug => "debug"
  | .trace => "trace"

def label : Level → String
  | .error => "ERROR"
  | .warn => "WARN"
  | .info => "INFO"
  | .debug => "DEBUG"
  | .trace => "TRACE"

def all : List Level := [.error, .warn, .info, .debug, .trace]

end Level

/-- The most verbose level that passes, if any does. -/
inductive Threshold where
  | off
  | upTo (level : Level)
deriving DecidableEq

namespace Threshold

/-- Thresholds that let more records pass rank higher. -/
def rank : Threshold → Nat
  | .off => 0
  | .upTo level => level.rank

def name : Threshold → String
  | .off => "off"
  | .upTo level => level.name

def all : List Threshold := .off :: Level.all.map .upTo

def allows (threshold : Threshold) (level : Level) : Bool :=
  level.rank ≤ threshold.rank

def max (a b : Threshold) : Threshold :=
  if a.rank < b.rank then b else a

end Threshold

end QualifierBindings
