import QualifierBindings.Text.Lead

/-! The annotation names that a converter understands: those of one package, each
with a marker that tells what the annotation asks for.
-/

namespace QualifierBindings

/-- What a recognised annotation asks for. -/
inductive Marker where
  /-- A container whose element `value` holds further annotations. -/
  | aggregate
  /-- Exactly the top qualifier. -/
  | tainted
  /-- Exactly the bottom qualifier. -/
  | untainted
  /-- Exactly the variable named by the element `value`. -/
  | var
  /-- Exactly the variable of a polymorphic signature. -/
  | polyTainting
  /-- Anything between bottom and top. -/
  | wild
  /-- Opens the lower bound of a parameter bound elsewhere. -/
  | extendsBound
  /-- Opens the upper bound of a parameter bound elsewhere. -/
  | superBound
  /-- Declares a parameter. -/
  | taintingParam
deriving DecidableEq

namespace Marker

/-- The simple name of a marker's annotation; an aggregate's name only begins so. -/
def simpleName : Marker → String
  | .aggregate => "Multi"
  | .tainted => "Tainted"
  | .untainted => "Untainted"
  | .var => "Var"
  | .polyTainting => "PolyTainting"
  | .wild => "Wild"
  | .extendsBound => "Extends"
  | .superBound => "Super"
  | .taintingParam => "TaintingParam"

def label : Marker → String
  | .aggregate => "Aggregate"
  | marker => marker.simpleName

/-- The markers that one simple name stands for. -/
def simple : List Marker :=
  [.tainted, .untainted, .var, .polyTainting, .wild, .extendsBound, .superBound, .taintingParam]

def ofSimpleName? (name : String) : Option Marker :=
  if Text.startsWith aggregate.simpleName name then some .aggregate
  else simple.find? (fun marker => marker.simpleName = name)

end Marker

/-- The annotation names of one package. -/
structure Vocabulary where
  package : String
deriving DecidableEq

namespace Vocabulary

/-- The parameter that every class, interface and enum declares implicitly. -/
def mainParameter : String := "Main"

/-- The parameter, and the variable, of a polymorphic signature. -/
def polyParameter : String := "_poly"

def qualifiedName (vocabulary : Vocabulary) (marker : Marker) : String :=
  vocabulary.package ++ "." ++ marker.simpleName

/-- The marker of an annotation, decided by its qualified name alone. -/
def classify? (vocabulary : Vocabulary) (name : String) : Option Marker :=
  (Text.after? (vocabulary.package ++ ".") name).bind Marker.ofSimpleName?

end Vocabulary

end QualifierBindings
