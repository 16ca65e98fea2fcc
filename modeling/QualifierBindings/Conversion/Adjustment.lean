import QualifierBindings.Config.Basic
import QualifierBindings.Conversion.Clause
import QualifierBindings.Conversion.Report

/-! The second pass of a conversion: every modifier opens one bound of a parameter
that the first pass has bound. The bindings reached so far stand in the result even
when the pass ends with an error.
-/

namespace QualifierBindings

/-- The bindings that a pass over modifiers leaves, its events, and how it ended:
with an error, or with whether anything was processed. -/
structure Adjustment (Q : Type) where
  bindings : Bindings Q
  events : List (Event Q)
  outcome : Except ConversionError Bool

def Modifier.applyTo {Q : Type} (L : GroundLattice Q) (range : Range Q) : Modifier → Range Q
  | .extendsBound => range.withLower (.ground L.bottom)
  | .superBound => range.withUpper (.ground L.top)

namespace Adjustment

variable {Q : Type}

def unchanged (bindings : Bindings Q) (outcome : Except ConversionError Bool) : Adjustment Q :=
  { bindings, events := [], outcome }

def ofModifier (L : GroundLattice Q) (missingBase : MissingBase) (bindings : Bindings Q)
    (modifier : Modifier) (target : String) : Adjustment Q :=
  match bindings.get? target with
  | some range =>
      { bindings := bindings.insert target (modifier.applyTo L range),
        events := [.adjusted modifier target (modifier.applyTo L range)],
        outcome := .ok true }
  | none =>
      match missingBase with
      | .error => unchanged bindings (.error (.modifierWithoutBase modifier target))
      | .warn => { bindings, events := [.ignored modifier target], outcome := .ok false }

/-- A further adjustment that starts where this one ended, unless it ended with an
error. -/
def andThen (first : Adjustment Q) (next : Bindings Q → Adjustment Q) : Adjustment Q :=
  match first.outcome with
  | .error _ => first
  | .ok _ => { next first.bindings with events := first.events ++ (next first.bindings).events }

def answering (adjustment : Adjustment Q) (processed : Bool) : Adjustment Q :=
  { adjustment with outcome := adjustment.outcome.map (fun _ => processed) }

end Adjustment

namespace Clause

variable {Q : Type}

mutual

/-- The modifiers of one clause applied to bindings. A group counts as processed
when it holds any clause. -/
def adjust (L : GroundLattice Q) (missingBase : MissingBase) (bindings : Bindings Q)
    : Clause → Adjustment Q
  | .unrelated => .unchanged bindings (.ok false)
  | .binding _ _ => .unchanged bindings (.ok false)
  | .brokenBinding _ => .unchanged bindings (.ok false)
  | .modifier kind target => .ofModifier L missingBase bindings kind target
  | .brokenModifier _ error => .unchanged bindings (.error error)
  | .brokenGroup error => .unchanged bindings (.error error)
  | .group clauses => (adjustAll L missingBase bindings clauses).answering (!clauses.isEmpty)

/-- The modifiers of all clauses applied in order. -/
def adjustAll (L : GroundLattice Q) (missingBase : MissingBase) (bindings : Bindings Q)
    : List Clause → Adjustment Q
  | [] => .unchanged bindings (.ok false)
  | clause :: rest =>
      (adjust L missingBase bindings clause).andThen (fun adjusted =>
        adjustAll L missingBase adjusted rest)

end

end Clause

end QualifierBindings
