import QualifierBindings.AnnotationUse

/-! Declarations of a source program with the annotations attached to them and,
for methods and constructors, the annotated types of their signature.
-/

namespace QualifierBindings

/-- What a declaration declares. -/
inductive DeclarationKind where
  | classType
  | interfaceType
  | enumType
  | annotationType
  | constructor
  | method
  | field
  | parameter
  | localVariable
  | package
  | other
deriving DecidableEq

namespace DeclarationKind

/-- All kinds, in the order in which messages list them. -/
def all : List DeclarationKind :=
  [.classType, .interfaceType, .enumType, .annotationType, .constructor, .method, .field,
    .parameter, .localVariable, .package, .other]

def name : DeclarationKind → String
  | .classType => "Class"
  | .interfaceType => "Interface"
  | .enumType => "Enum"
  | .annotationType => "AnnotationType"
  | .constructor => "Constructor"
  | .method => "Method"
  | .field => "Field"
  | .parameter => "Parameter"
  | .localVariable => "LocalVariable"
  | .package => "Package"
  | .other => "Other"

/-- Classes, interfaces and enums declare types. -/
def isType : DeclarationKind → Bool
  | .classType | .interfaceType | .enumType => true
  | _ => false

/-- Constructors and methods can be executed. -/
def isExecutable : DeclarationKind → Bool
  | .constructor | .method => true
  | _ => false

/-- The kinds of types are named one by one. -/
theorem isType_iff (kind : DeclarationKind)
    : kind.isType = true ↔ kind ∈ [.classType, .interfaceType, .enumType] := by
  cases kind <;> decide

/-- So are the kinds that can be executed. -/
theorem isExecutable_iff (kind : DeclarationKind)
    : kind.isExecutable = true ↔ kind ∈ [.constructor, .method] := by
  cases kind <;> decide

end DeclarationKind

/-- A type as written at one position, with its type annotations. -/
structure TypeUse where
  name : String
  annotations : List AnnotationUse

/-- Whether an annotation of the given name stands directly on the type. -/
def TypeUse.isAnnotatedWith (use : TypeUse) (name : String) : Bool :=
  use.annotations.any (fun found => found.name = name)

/-- The annotated types of a method or constructor. Constructors and `void`
methods have no result, static methods no receiver. -/
structure Signature where
  result : Option TypeUse
  receiver : Option TypeUse
  parameters : List TypeUse

/-- Result type, receiver type, then the parameter types in order. -/
def Signature.types (signature : Signature) : List TypeUse :=
  signature.result.toList ++ signature.receiver.toList ++ signature.parameters

/-- A declaration with its own annotations and its signature, if it has one. -/
structure Declaration where
  kind : DeclarationKind
  name : String
  annotations : List AnnotationUse
  signature : Option Signature

namespace Declaration

/-- The annotations held by containers, that is by arrays in an element `value`. -/
def contained (declaration : Declaration) : List AnnotationUse :=
  declaration.annotations.flatMap (fun use => (use.nested? "value").getD [])

/-- The annotations of one name: those directly present, then those that a
container holds. -/
def annotationsNamed (declaration : Declaration) (name : String) : List AnnotationUse :=
  declaration.annotations.filter (fun use => use.name = name)
    ++ declaration.contained.filter (fun use => use.name = name)

/-- The types of the signature, none without a signature. -/
def signatureTypes (declaration : Declaration) : List TypeUse :=
  (declaration.signature.map Signature.types).getD []

end Declaration

end QualifierBindings
