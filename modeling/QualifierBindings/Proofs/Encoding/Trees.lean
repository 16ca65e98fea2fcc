import QualifierBindings.Conversion.Converter
import QualifierBindings.Conversion.Declared
import QualifierBindings.Encoding.Declaration
import QualifierBindings.Proofs.Encoding.Lossless

/-! Annotations and declarations are stored without loss, however deeply annotations are nested in
each other. What is read back is converted, classified and resolved as the original is.
-/

namespace QualifierBindings

open Stored

namespace AnnotationUse

mutual

/-- An annotation is read back, by the same induction as its elements and what they hold. -/
theorem decode_encode : (use : AnnotationUse) → decode (encode use) = .ok use
  | ⟨name, elements⟩ => by
      have entries := decodeEntries_encodeElements elements
      simp [encode, decode, decodeMembers, decodeElements, entries, Data.asText, Draft.finish,
        Data.required, Except.map]

/-- All elements are read back in their order. -/
theorem decodeEntries_encodeElements
    : (elements : List (String × ElementValue AnnotationUse))
      → decodeEntries (encodeElements elements) = .ok elements
  | [] => by rw [encodeElements, decodeEntries]
  | (element, value) :: rest => by
      rw [encodeElements, decodeEntries, decodeValue_encodeValue value,
        decodeEntries_encodeElements rest]
      rfl

/-- The variant of an element's value is told by its tag. -/
theorem decodeValue_encodeValue
    : (value : ElementValue AnnotationUse) → decodeValue (encodeValue value) = .ok value
  | .text value => by
      rw [encodeValue, decodeValue]
      rfl
  | .annotations items => by
      have each := decodeAll_encodeAll items
      simp [encodeValue, decodeValue, decodeItems, each, Except.map]

/-- Annotations are read back one by one. -/
theorem decodeAll_encodeAll
    : (annotations : List AnnotationUse) → decodeAll (encodeAll annotations) = .ok annotations
  | [] => by rw [encodeAll, decodeAll]
  | use :: rest => by
      rw [encodeAll, decodeAll, decode_encode use, decodeAll_encodeAll rest]
      rfl

end

/-- A sequence of annotations is read back wherever it stands. -/
@[simp] theorem decodeItems_encodeAll (annotations : List AnnotationUse)
    : decodeItems (.sequence (encodeAll annotations)) = .ok annotations := by
  rw [decodeItems, decodeAll_encodeAll]

end AnnotationUse

/-- Each kind of declaration has a name of its own. -/
theorem DeclarationKind.lossless : Lossless DeclarationKind := by
  intro kind
  cases kind <;> rfl

namespace TypeUse

/-- A type use is read back with all annotations on it. -/
theorem lossless : Lossless TypeUse := by
  intro use
  have annotations := AnnotationUse.decodeItems_encodeAll use.annotations
  change decode (encode use) = .ok use
  simp only [encode, decode, List.foldlM, readMember, annotations]
  rfl

/-- A type use that is absent is told from all that are present. -/
theorem asOption_encodeOption (use : Option TypeUse)
    : (encodeOption use).asOption decode = .ok use := by
  cases use with
  | none => rfl
  | some use => exact Data.asOption_of_decoded (by simp [encodeOption, encode]) (lossless use)

end TypeUse

namespace Signature

/-- A signature is read back, with or without a result and a receiver. -/
theorem lossless : Lossless Signature := by
  intro signature
  have parameters
      : (Data.sequence (signature.parameters.map TypeUse.encode)).asList TypeUse.decode
        = .ok signature.parameters :=
    Except.mapM_map_of_inverse TypeUse.lossless signature.parameters
  change decode (encode signature) = .ok signature
  simp only [encode, decode, List.foldlM, readMember, parameters, TypeUse.asOption_encodeOption]
  rfl

end Signature

namespace Declaration

/-- A declaration is read back, with or without a signature. -/
theorem lossless : Lossless Declaration := by
  intro declaration
  have annotations := AnnotationUse.decodeItems_encodeAll declaration.annotations
  have kind : DeclarationKind.decode declaration.kind.encode = .ok declaration.kind :=
    DeclarationKind.lossless declaration.kind
  obtain ⟨own, name, attached, signature⟩ := declaration
  change decode (encode _) = .ok _
  cases signature with
  | none =>
      simp only [encode, decode, List.foldlM, readMember, annotations, kind]
      rfl
  | some signature =>
      have read : signature.encode.asOption Signature.decode = .ok (some signature) :=
        Data.asOption_of_decoded (by simp [Signature.encode]) (Signature.lossless signature)
      simp only [encode, decode, List.foldlM, readMember, annotations, kind, read]
      rfl

end Declaration

namespace Stored

/-- Annotations, with whatever is nested in their elements, and the declarations that they stand
on are kept when they are stored: all are read back, and no two of a type are stored alike. A
converter therefore answers for what was read back as it does for the original, and declarations
declare the same.
-/
theorem lossless_trees
    : (Kept AnnotationUse ∧ Kept (ElementValue AnnotationUse) ∧ Kept DeclarationKind
        ∧ Kept TypeUse ∧ Kept Signature ∧ Kept Declaration)
      ∧ (∀ (Q : Type) (converter : Converter Q) (annotations : List AnnotationUse),
          ((annotations.map encode).mapM decode).map converter.convert
            = .ok (converter.convert annotations)
          ∧ ((annotations.map encode).mapM decode).map (List.map converter.supports)
            = .ok (annotations.map converter.supports))
      ∧ (∀ (vocabulary : Vocabulary) (use : AnnotationUse),
          (decode (encode use)).map (fun again : AnnotationUse => vocabulary.classify? again.name)
            = .ok (vocabulary.classify? use.name))
      ∧ ∀ (vocabulary : Vocabulary) (declaration : Declaration),
          (decode (encode declaration)).map (Declaration.parameters vocabulary)
            = .ok (declaration.parameters vocabulary) := by
  have annotations : Lossless AnnotationUse := AnnotationUse.decode_encode
  have values : Lossless (ElementValue AnnotationUse) := AnnotationUse.decodeValue_encodeValue
  refine ⟨⟨annotations.kept, values.kept, DeclarationKind.lossless.kept, TypeUse.lossless.kept,
    Signature.lossless.kept, Declaration.lossless.kept⟩, ?_, ?_, ?_⟩
  · intro Q converter uses
    rw [Except.mapM_map_of_inverse annotations uses]
    exact ⟨rfl, rfl⟩
  · intro vocabulary use
    rw [annotations use]
    rfl
  · intro vocabulary declaration
    rw [Declaration.lossless declaration]
    rfl

/-- A method without a receiver, whose result type is annotated with an aggregate. The name of the
aggregate keeps its `@`. -/
example
    : (let items : List AnnotationUse := [⟨"q.Tainted", [("target", .text "")]⟩]
       let result : TypeUse := ⟨"C", [⟨"@q.Multi", [("value", .annotations items)]⟩]⟩
       encode ({ result := some result, receiver := none, parameters := [] } : Signature))
      = .record [("parameters", .sequence []), ("receiver_type", .null),
          ("return_type", .record [
            ("annotations", .sequence [.record [
              ("elements", .record [("value", .record [("Annotations", .sequence [.record [
                ("elements", .record [("target", .record [("String", .text "")])]),
                ("name", .text "q.Tainted")]])])]),
              ("name", .text "@q.Multi")]]),
            ("name", .text "C")])] :=
  rfl

end Stored

end QualifierBindings
