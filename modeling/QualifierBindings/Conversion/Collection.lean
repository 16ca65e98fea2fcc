import QualifierBindings.Conversion.Clause
import QualifierBindings.Conversion.Report

/-! The first pass of a conversion: every binding clause contributes a range to its
parameter. A group first collects the bindings of its own clauses, which then
contribute as a whole.
-/

namespace QualifierBindings

/-- The events of merging `new` into `old`: one for each parameter bound on both
sides. -/
def Bindings.mergeEvents {Q : Type} (H : Hierarchy Q) (old new : Bindings Q) : List (Event Q) :=
  new.entries.filterMap (fun entry =>
    (old.get? entry.1).map (fun range =>
      .combined entry.1 range entry.2 (range.pointwise H.join entry.2)))

def Bindings.receive {Q : Type} (H : Hierarchy Q) (bindings : Bindings Q)
    : Option (Bindings Q) → Report Q (Bindings Q)
  | none => pure bindings
  | some new =>
      { events := bindings.mergeEvents H new, outcome := .ok (bindings.merge H.join new) }

namespace Clause

mutual

/-- The bindings that one clause contributes, or none if it binds nothing. A group
always contributes, possibly without any binding. -/
def contribution {Q : Type} (H : Hierarchy Q) : Clause → Report Q (Option (Bindings Q))
  | .unrelated => pure none
  | .modifier _ _ => pure none
  | .brokenModifier _ _ => pure none
  | .binding target binder => pure (some (.singleton target (binder.range H.toGroundLattice)))
  | .brokenBinding error => .fail error
  | .brokenGroup error => .fail error
  | .group clauses => do
      let bindings ← collect H .empty clauses
      pure (some bindings)

/-- The given bindings after the contributions of all clauses in order. -/
def collect {Q : Type} (H : Hierarchy Q) (bindings : Bindings Q)
    : List Clause → Report Q (Bindings Q)
  | [] => pure bindings
  | clause :: rest => do
      let new ← contribution H clause
      let bindings ← bindings.receive H new
      collect H bindings rest

end

end Clause

end QualifierBindings
