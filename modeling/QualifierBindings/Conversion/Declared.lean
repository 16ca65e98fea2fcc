import QualifierBindings.Conversion.Error
import QualifierBindings.Declaration
import QualifierBindings.Vocabulary

/-! The qualifier parameters that a declaration declares.
-/

namespace QualifierBindings

namespace Declaration

/-- The values of the explicit parameter declarations, in order. -/
def explicitParameters (vocabulary : Vocabulary) (declaration : Declaration)
    : Except ConversionError (List String) :=
  (declaration.annotationsNamed (vocabulary.qualifiedName .taintingParam)).mapM
    (fun use => Elements.requiredText use.name use.elements "value")

/-- Whether some type of the signature is directly annotated as polymorphic. -/
def hasPolySignature (vocabulary : Vocabulary) (declaration : Declaration) : Bool :=
  declaration.signatureTypes.any (fun use =>
    use.isAnnotatedWith (vocabulary.qualifiedName .polyTainting))

/-- The parameters declared without being written: types declare the main
parameter, methods and constructors with a polymorphic signature its own. -/
def implicitParameters (vocabulary : Vocabulary) (declaration : Declaration) : List String :=
  if declaration.kind.isType then [Vocabulary.mainParameter]
  else if declaration.kind.isExecutable && declaration.hasPolySignature vocabulary then
    [Vocabulary.polyParameter]
  else []

def parameters (vocabulary : Vocabulary) (declaration : Declaration)
    : Except ConversionError (NameMap Unit) :=
  (declaration.explicitParameters vocabulary).map (fun explicit =>
    .ofList ((explicit ++ declaration.implicitParameters vocabulary).map (fun name => (name, ()))))

end Declaration

end QualifierBindings
