import QualifierBindings.Hierarchy

/-! The range of qualifiers that a parameter may take at one type use.
-/

namespace QualifierBindings

/-- A lower and an upper bound, each concrete or symbolic. -/
structure Range (Q : Type) where
  lower : Qualifier Q
  upper : Qualifier Q
deriving DecidableEq

namespace Range

variable {Q R : Type}

/-- The range that holds exactly one qualifier. -/
def exact (qualifier : Qualifier Q) : Range Q :=
  { lower := qualifier, upper := qualifier }

/-- The range that holds exactly one concrete value. -/
def ground (value : Q) : Range Q :=
  exact (.ground value)

def between (lower upper : Q) : Range Q :=
  { lower := .ground lower, upper := .ground upper }

def withLower (range : Range Q) (lower : Qualifier Q) : Range Q :=
  { range with lower }

def withUpper (range : Range Q) (upper : Qualifier Q) : Range Q :=
  { range with upper }

/-- Two ranges combine bound by bound, the older bound as first argument. -/
def combine (lowerOp upperOp : Qualifier Q → Qualifier Q → Qualifier Q) (old new : Range Q)
    : Range Q :=
  { lower := lowerOp old.lower new.lower, upper := upperOp old.upper new.upper }

def pointwise (op : Qualifier Q → Qualifier Q → Qualifier Q) (old new : Range Q) : Range Q :=
  combine op op old new

def map (f : Q → R) (range : Range Q) : Range R :=
  { lower := range.lower.map f, upper := range.upper.map f }

def isExact [DecidableEq Q] (range : Range Q) : Bool :=
  range.lower = range.upper

/-- Whether some value of the lower bound lies below some value of the upper
bound, which the extreme values decide. -/
def isWellFormed [DecidableEq Q] (L : GroundLattice Q) (range : Range Q) : Bool :=
  L.isSubtype range.lower.lowest range.upper.highest

def text [ToString Q] (range : Range Q) : String :=
  "[" ++ range.lower.text ++ " .. " ++ range.upper.text ++ "]"

@[simp] theorem pointwise_lower (op : Qualifier Q → Qualifier Q → Qualifier Q)
    (old new : Range Q)
    : (pointwise op old new).lower = op old.lower new.lower := rfl

@[simp] theorem pointwise_upper (op : Qualifier Q → Qualifier Q → Qualifier Q)
    (old new : Range Q)
    : (pointwise op old new).upper = op old.upper new.upper := rfl

end Range

end QualifierBindings
