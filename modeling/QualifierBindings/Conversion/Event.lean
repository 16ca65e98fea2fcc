import QualifierBindings.Conversion.Error
import QualifierBindings.Log.Record
import QualifierBindings.Range

/-! What a conversion reports while it runs.
-/

namespace QualifierBindings

/-- One step of a conversion that is worth a log record. -/
inductive Event (Q : Type) where
  /-- A further contribution was joined to a parameter already bound. -/
  | combined (parameter : String) (old new result : Range Q)
  /-- A modifier opened one bound of a parameter. -/
  | adjusted (modifier : Modifier) (parameter : String) (result : Range Q)
  /-- A modifier was skipped, since nothing binds its parameter. -/
  | ignored (modifier : Modifier) (parameter : String)
  /-- A conversion succeeded. -/
  | converted (annotations parameters : Nat)
deriving DecidableEq

namespace Event

/-- The part of the program that conversion records name as their origin. -/
def target : String := "qualpoly.tainting"

def record {Q : Type} [ToString Q] : Event Q → LogRecord
  | .combined parameter old new result =>
      { level := .trace, target, message := "combined wildcards",
        fields := [("name", .display parameter), ("old", .display old.text),
          ("new", .display new.text), ("combined", .display result.text)] }
  | .adjusted modifier parameter result =>
      { level := .debug, target, message := "adjusted bounds",
        fields := [("modifier", .display modifier.text), ("parameter", .text parameter),
          ("adjusted", .display result.text)] }
  | .ignored modifier parameter =>
      { level := .warn, target,
        message := "ignoring bound modifier for a parameter with no base declaration",
        fields := [("modifier", .display modifier.text), ("parameter", .text parameter)] }
  | .converted annotations parameters =>
      { level := .debug, target, message := "converted qualifier parameters",
        fields := [("annotations", .count annotations), ("parameters", .count parameters)] }

end Event

end QualifierBindings
