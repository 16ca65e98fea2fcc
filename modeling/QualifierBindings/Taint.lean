import QualifierBindings.Hierarchy

/-! The two qualifiers of the tainting checker, the lattices over them, and the
lattice of sets of eight bits.
-/

namespace QualifierBindings

/-- Whether a value may come from an untrusted source. -/
inductive Taint where
  | untainted
  | tainted
deriving DecidableEq

namespace Taint

def text : Taint → String
  | .untainted => "UNTAINTED"
  | .tainted => "TAINTED"

instance : ToString Taint := ⟨text⟩

/-- All taints in lattice order. -/
def all : List Taint := [.untainted, .tainted]

def swap : Taint → Taint
  | .untainted => .tainted
  | .tainted => .untainted

/-- Tainted unless both are untainted. -/
def either : Taint → Taint → Taint
  | .untainted, b => b
  | .tainted, _ => .tainted

/-- Tainted only if both are tainted. -/
def both : Taint → Taint → Taint
  | .untainted, _ => .untainted
  | .tainted, b => b

end Taint

namespace GroundLattice

/-- Trusted values lie below tainted ones. -/
def tainting : GroundLattice Taint :=
  { bottom := .untainted, top := .tainted, lub := Taint.either }

/-- The tainting lattice upside down. -/
def inverted : GroundLattice Taint :=
  { bottom := .tainted, top := .untainted, lub := Taint.both }

/-- Sets of eight bits under union. -/
def bits : GroundLattice UInt8 :=
  { bottom := 0, top := 255, lub := fun a b => a ||| b }

end GroundLattice

end QualifierBindings
