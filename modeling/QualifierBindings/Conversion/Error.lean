import QualifierBindings.AnnotationUse
import QualifierBindings.NameMap

/-! The ways in which qualifier annotations can be malformed, and the element
look-ups that report them.
-/

namespace QualifierBindings

/-- The two annotations that open a bound of a parameter bound elsewhere. -/
inductive Modifier where
  | extendsBound
  | superBound
deriving DecidableEq

def Modifier.text : Modifier → String
  | .extendsBound => "@Extends"
  | .superBound => "@Super"

/-- Why annotations cannot be converted. -/
inductive ConversionError where
  | modifierWithoutBase (modifier : Modifier) (target : String)
  | missingElement (annotationName element : String)
  | elementMismatch (annotationName element : String) (expected found : ValueKind)
deriving DecidableEq

def ConversionError.message : ConversionError → String
  | .modifierWithoutBase modifier target =>
      modifier.text ++ "(target = \"" ++ target ++ "\") has no base declaration for parameter `"
        ++ target ++ "`"
  | .missingElement annotationName element =>
      "annotation " ++ annotationName ++ " is missing required element `" ++ element ++ "`"
  | .elementMismatch annotationName element expected found =>
      "element `" ++ element ++ "` of annotation " ++ annotationName ++ " must be a "
        ++ expected.name ++ ", found a " ++ found.name

namespace Elements

variable {A : Type}

def requiredText (annotationName : String) (elements : Entries (ElementValue A))
    (element : String) : Except ConversionError String :=
  match elements.get? element with
  | some (.text value) => .ok value
  | some (.annotations _) => .error (.elementMismatch annotationName element .text .annotations)
  | none => .error (.missingElement annotationName element)

/-- The string of an element that may be left at its default. -/
def textOr (default annotationName : String) (elements : Entries (ElementValue A))
    (element : String) : Except ConversionError String :=
  match elements.get? element with
  | some (.text value) => .ok value
  | some (.annotations _) => .error (.elementMismatch annotationName element .text .annotations)
  | none => .ok default

def requiredNested (annotationName : String) (elements : Entries (ElementValue A))
    (element : String) : Except ConversionError (List A) :=
  match elements.get? element with
  | some (.annotations items) => .ok items
  | some (.text _) => .error (.elementMismatch annotationName element .annotations .text)
  | none => .error (.missingElement annotationName element)

end Elements

end QualifierBindings
