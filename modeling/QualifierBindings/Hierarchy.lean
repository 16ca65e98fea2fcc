import QualifierBindings.Qualifier

/-! Joins of qualifiers. A `GroundLattice` joins concrete values; a `Hierarchy`
adds the rule for pairs that hold a variable. The usual rule, `widenSymbolic`,
places a variable between its bounds and widens two distinct variables to the
join of their upper bounds.
-/

namespace QualifierBindings

/-- Concrete qualifiers with a least upper bound and the two extreme values. -/
structure GroundLattice (Q : Type) where
  bottom : Q
  top : Q
  lub : Q → Q → Q

namespace GroundLattice

variable {Q : Type} [DecidableEq Q]

/-- `sub` lies below `sup` when their join is `sup` itself. -/
def isSubtype (L : GroundLattice Q) (sub sup : Q) : Bool :=
  L.lub sub sup = sup

/-- A variable pinned to a single value stands for that value. -/
def settle (L : GroundLattice Q) : Qualifier Q → Qualifier Q
  | .ground value => .ground value
  | .symbolic var =>
      if L.isSubtype var.upper var.lower then .ground var.lower else .symbolic var

/-- A concrete value below a variable's lower bound is absorbed by the variable;
any other one is joined with the variable's upper bound. -/
def joinVariable (L : GroundLattice Q) (value : Q) (var : Variable Q) : Qualifier Q :=
  if L.isSubtype value var.lower then .symbolic var else .ground (L.lub value var.upper)

/-- The join of two settled qualifiers that are not known to be equal. -/
def widen (L : GroundLattice Q) : Qualifier Q → Qualifier Q → Qualifier Q
  | .ground a, .ground b => .ground (L.lub a b)
  | .ground value, .symbolic var => L.joinVariable value var
  | .symbolic var, .ground value => L.joinVariable value var
  | .symbolic a, .symbolic b => .ground (L.lub a.upper b.upper)

/-- Equal qualifiers join to themselves; different ones are settled and widened. -/
def widenSymbolic (L : GroundLattice Q) (a b : Qualifier Q) : Qualifier Q :=
  if a = b then a else L.widen (L.settle a) (L.settle b)

end GroundLattice

/-- A ground lattice with its rule for joining qualifiers that may be variables. -/
structure Hierarchy (Q : Type) extends GroundLattice Q where
  joinSymbolic : Qualifier Q → Qualifier Q → Qualifier Q

def GroundLattice.hierarchy {Q : Type} [DecidableEq Q] (L : GroundLattice Q) : Hierarchy Q :=
  { L with joinSymbolic := L.widenSymbolic }

namespace Hierarchy

variable {Q : Type}

/-- Two ground qualifiers join by the lattice, any pair with a variable by the
symbolic rule. -/
def join (H : Hierarchy Q) : Qualifier Q → Qualifier Q → Qualifier Q
  | .ground a, .ground b => .ground (H.lub a b)
  | a, b => H.joinSymbolic a b

/-- The hierarchy whose symbolic rule answers its first argument. -/
def keepFirst (L : GroundLattice Q) : Hierarchy Q :=
  { L with joinSymbolic := fun a _ => a }

/-- The hierarchy whose symbolic rule answers its second argument. -/
def keepSecond (L : GroundLattice Q) : Hierarchy Q :=
  { L with joinSymbolic := fun _ b => b }

@[simp] theorem join_ground (H : Hierarchy Q) (a b : Q)
    : H.join (.ground a) (.ground b) = .ground (H.lub a b) := rfl

/-- A variable on either side makes the join symbolic. -/
@[simp] theorem join_symbolic_left (H : Hierarchy Q) (var : Variable Q) (b : Qualifier Q)
    : H.join (.symbolic var) b = H.joinSymbolic (.symbolic var) b := by
  cases b <;> rfl

@[simp] theorem join_symbolic_right (H : Hierarchy Q) (a : Qualifier Q) (var : Variable Q)
    : H.join a (.symbolic var) = H.joinSymbolic a (.symbolic var) := by
  cases a <;> rfl

end Hierarchy

end QualifierBindings
