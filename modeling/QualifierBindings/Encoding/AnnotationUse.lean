import QualifierBindings.AnnotationUse
import QualifierBindings.Data.Decoding

/-! The stored forms of annotations and element values.
-/

namespace QualifierBindings

namespace AnnotationUse

mutual

def encode : AnnotationUse → Data
  | ⟨name, elements⟩ =>
      .record [("elements", .record (encodeElements elements)), ("name", .text name)]

def encodeElements : List (String × ElementValue AnnotationUse) → List (String × Data)
  | [] => []
  | (element, value) :: rest => (element, encodeValue value) :: encodeElements rest

def encodeValue : ElementValue AnnotationUse → Data
  | .text value => .record [("String", .text value)]
  | .annotations items => .record [("Annotations", .sequence (encodeAll items))]

/-- The stored forms of annotations in order. -/
def encodeAll : List AnnotationUse → List Data
  | [] => []
  | use :: rest => encode use :: encodeAll rest

end

/-- The fields of an annotation read so far. -/
structure Draft where
  name : Option String := none
  elements : Option (List (String × ElementValue AnnotationUse)) := none

/-- The annotation of a finished draft. Its elements may have been left out. -/
def Draft.finish (draft : Draft) : Except DecodeError AnnotationUse :=
  (Data.required "name" draft.name).map (fun name =>
    { name, elements := draft.elements.getD [] })

mutual

def decode : Data → Except DecodeError AnnotationUse
  | .record members =>
      match decodeMembers {} members with
      | .error error => .error error
      | .ok draft => draft.finish
  | .sequence [] => .error (.invalidLength 0 (Data.sized "Annotation" 2))
  | .sequence [name] => name.asText.map (fun name => { name, elements := [] })
  | .sequence (name :: elements :: further) =>
      match name.asText with
      | .error error => .error error
      | .ok name =>
          match decodeElements elements with
          | .error error => .error error
          | .ok elements =>
              (Data.noFurther 2 (.null :: .null :: further)).map (fun _ => { name, elements })
  | data => data.mismatch "struct Annotation"

/-- Reading the members of an annotation's record in order. -/
def decodeMembers (draft : Draft) : List (String × Data) → Except DecodeError Draft
  | [] => .ok draft
  | (member, data) :: rest =>
      if member = "elements" then
        match decodeElements data with
        | .error error => .error error
        | .ok elements => decodeMembers { draft with elements := some elements } rest
      else if member = "name" then
        match data.asText with
        | .error error => .error error
        | .ok name => decodeMembers { draft with name := some name } rest
      else decodeMembers draft rest

def decodeElements : Data → Except DecodeError (List (String × ElementValue AnnotationUse))
  | .record members => decodeEntries members
  | data => data.mismatch "a map"

/-- Reading named element values in order. -/
def decodeEntries
    : List (String × Data) → Except DecodeError (List (String × ElementValue AnnotationUse))
  | [] => .ok []
  | (element, data) :: rest =>
      match decodeValue data with
      | .error error => .error error
      | .ok value => (decodeEntries rest).map (fun entries => (element, value) :: entries)

def decodeValue : Data → Except DecodeError (ElementValue AnnotationUse)
  | .text variant =>
      if variant = "String" ∨ variant = "Annotations" then
        .error (.invalidType .unitVariant "newtype variant")
      else .error (.unknownVariant variant ["String", "Annotations"])
  | .record [(variant, content)] =>
      if variant = "String" then content.asText.map .text
      else if variant = "Annotations" then (decodeItems content).map .annotations
      else .error (.unknownVariant variant ["String", "Annotations"])
  | .record _ => .error (.invalidValue .map "map with a single key")
  | data => data.mismatch "string or map"

def decodeItems : Data → Except DecodeError (List AnnotationUse)
  | .sequence items => decodeAll items
  | data => data.mismatch "a sequence"

/-- Reading annotations in order. -/
def decodeAll : List Data → Except DecodeError (List AnnotationUse)
  | [] => .ok []
  | data :: rest =>
      match decode data with
      | .error error => .error error
      | .ok use => (decodeAll rest).map (fun annotations => use :: annotations)

end

end AnnotationUse

instance : Stored AnnotationUse := ⟨AnnotationUse.encode, AnnotationUse.decode⟩

instance : Stored (ElementValue AnnotationUse) :=
  ⟨AnnotationUse.encodeValue, AnnotationUse.decodeValue⟩

end QualifierBindings
