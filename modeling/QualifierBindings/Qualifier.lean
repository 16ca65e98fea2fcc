/-! Qualifiers as they stand at one bound of a type use: a value of the lattice
itself, or a named variable that stands for some value between its own bounds.
-/

namespace QualifierBindings

/-- A named qualifier variable with its own bounds. Two variables are the same
exactly when their names and both bounds agree. -/
structure Variable (Q : Type) where
  name : String
  lower : Q
  upper : Q
deriving DecidableEq

/-- A qualifier is a concrete lattice value or a variable. -/
inductive Qualifier (Q : Type) where
  | ground (value : Q)
  | symbolic (var : Variable Q)
deriving DecidableEq

namespace Variable

/-- Transporting both bounds along a map of lattice values keeps the name. -/
def map {Q R : Type} (f : Q → R) (var : Variable Q) : Variable R :=
  { name := var.name, lower := f var.lower, upper := f var.upper }

end Variable

namespace Qualifier

variable {Q R : Type}

def named (name : String) (lower upper : Q) : Qualifier Q :=
  .symbolic { name, lower, upper }

def symbol? : Qualifier Q → Option (Variable Q)
  | .ground _ => none
  | .symbolic var => some var

/-- The smallest concrete value this qualifier can stand for. -/
def lowest : Qualifier Q → Q
  | .ground value => value
  | .symbolic var => var.lower

/-- The largest concrete value this qualifier can stand for. -/
def highest : Qualifier Q → Q
  | .ground value => value
  | .symbolic var => var.upper

/-- Transporting every lattice value of a qualifier keeps its variable's name. -/
def map (f : Q → R) : Qualifier Q → Qualifier R
  | .ground value => .ground (f value)
  | .symbolic var => .symbolic (var.map f)

/-- A ground qualifier is written as its value, a variable as its bare name. -/
def text [ToString Q] : Qualifier Q → String
  | .ground value => toString value
  | .symbolic var => var.name

end Qualifier

end QualifierBindings
