import QualifierBindings.NameMap
import QualifierBindings.Text.Lead

/-! Annotation uses as they stand in a source program: a qualified name and the
elements that were written out, each a string or an array of annotations.
-/

namespace QualifierBindings

/-- The value of one annotation element, over the type of nested annotations. -/
inductive ElementValue (A : Type) where
  | text (value : String)
  | annotations (items : List A)
deriving DecidableEq

/-- The two kinds of element values. -/
inductive ValueKind where
  | text
  | annotations
deriving DecidableEq

def ValueKind.name : ValueKind → String
  | .text => "string"
  | .annotations => "annotation array"

namespace ElementValue

variable {A : Type}

def kind : ElementValue A → ValueKind
  | .text _ => .text
  | .annotations _ => .annotations

def text? : ElementValue A → Option String
  | .text value => some value
  | .annotations _ => none

def items? : ElementValue A → Option (List A)
  | .text _ => none
  | .annotations items => some items

end ElementValue

/-- An annotation with its explicitly given elements in order of their names.
Elements left at their default are absent. -/
structure AnnotationUse where
  name : String
  elements : List (String × ElementValue AnnotationUse)

namespace AnnotationUse

/-- An annotation without elements; one leading `@` of the name is dropped. -/
def new (name : String) : AnnotationUse :=
  { name := (Text.after? "@" name).getD name, elements := [] }

def withElement (use : AnnotationUse) (element : String) (value : ElementValue AnnotationUse)
    : AnnotationUse :=
  { use with elements := Entries.insert element value use.elements }

def element? (use : AnnotationUse) (element : String) : Option (ElementValue AnnotationUse) :=
  Entries.get? element use.elements

def textElement? (use : AnnotationUse) (element : String) : Option String :=
  (use.element? element).bind ElementValue.text?

def nested? (use : AnnotationUse) (element : String) : Option (List AnnotationUse) :=
  (use.element? element).bind ElementValue.items?

end AnnotationUse

end QualifierBindings
