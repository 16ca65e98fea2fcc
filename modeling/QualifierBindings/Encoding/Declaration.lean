import QualifierBindings.Declaration
import QualifierBindings.Encoding.AnnotationUse

/-! The stored forms of declarations, signatures and type uses.
-/

namespace QualifierBindings

namespace DeclarationKind

def encode (kind : DeclarationKind) : Data :=
  .text kind.name

def decode : Data → Except DecodeError DeclarationKind :=
  Data.asOneOf all name

instance : Stored DeclarationKind := ⟨encode, decode⟩

end DeclarationKind

namespace TypeUse

def encode (use : TypeUse) : Data :=
  .record [("annotations", .sequence (AnnotationUse.encodeAll use.annotations)),
    ("name", .text use.name)]

/-- The fields of a type use read so far. -/
structure Draft where
  name : Option String := none
  annotations : List AnnotationUse := []

def readMember (draft : Draft) (member : String × Data) : Except DecodeError Draft :=
  match member.1 with
  | "name" => member.2.asText.map (fun name => { draft with name := some name })
  | "annotations" =>
      (AnnotationUse.decodeItems member.2).map (fun annotations => { draft with annotations })
  | _ => .ok draft

/-- Reading a type use, whose annotations may be left out. -/
def decode : Data → Except DecodeError TypeUse
  | .record members => do
      let draft ← members.foldlM readMember {}
      let name ← Data.required "name" draft.name
      pure { name, annotations := draft.annotations }
  | .sequence items => do
      let name ← Data.field "TypeUse" 2 items 0 Data.asText
      let annotations ← Data.fieldOr [] items 1 AnnotationUse.decodeItems
      Data.noFurther 2 items
      pure { name, annotations }
  | data => data.mismatch "struct TypeUse"

instance : Stored TypeUse := ⟨encode, decode⟩

/-- A type use that may be absent is stored as null where it is. -/
def encodeOption : Option TypeUse → Data
  | none => .null
  | some use => use.encode

end TypeUse

namespace Signature

def encode (signature : Signature) : Data :=
  .record [("parameters", .sequence (signature.parameters.map TypeUse.encode)),
    ("receiver_type", TypeUse.encodeOption signature.receiver),
    ("return_type", TypeUse.encodeOption signature.result)]

/-- The fields of a signature read so far. -/
structure Draft where
  result : Option TypeUse := none
  receiver : Option TypeUse := none
  parameters : Option (List TypeUse) := none

def readMember (draft : Draft) (member : String × Data) : Except DecodeError Draft :=
  match member.1 with
  | "return_type" =>
      (member.2.asOption TypeUse.decode).map (fun result => { draft with result })
  | "receiver_type" =>
      (member.2.asOption TypeUse.decode).map (fun receiver => { draft with receiver })
  | "parameters" =>
      (member.2.asList TypeUse.decode).map (fun parameters =>
        { draft with parameters := some parameters })
  | _ => .ok draft

/-- Reading a signature. A record may leave out result and receiver. -/
def decode : Data → Except DecodeError Signature
  | .record members => do
      let draft ← members.foldlM readMember {}
      let parameters ← Data.required "parameters" draft.parameters
      pure { result := draft.result, receiver := draft.receiver, parameters }
  | .sequence items => do
      let result ← Data.field "ExecutableSignature" 3 items 0 (Data.asOption TypeUse.decode)
      let receiver ← Data.field "ExecutableSignature" 3 items 1 (Data.asOption TypeUse.decode)
      let parameters ← Data.field "ExecutableSignature" 3 items 2 (Data.asList TypeUse.decode)
      Data.noFurther 3 items
      pure { result, receiver, parameters }
  | data => data.mismatch "struct ExecutableSignature"

instance : Stored Signature := ⟨encode, decode⟩

end Signature

namespace Declaration

/-- A declaration is stored with its kind, name, annotations and signature. -/
def encode (declaration : Declaration) : Data :=
  .record [("annotations", .sequence (AnnotationUse.encodeAll declaration.annotations)),
    ("kind", declaration.kind.encode), ("name", .text declaration.name),
    ("signature",
      match declaration.signature with
      | none => .null
      | some signature => signature.encode)]

/-- The fields of a declaration read so far. -/
structure Draft where
  kind : Option DeclarationKind := none
  name : Option String := none
  annotations : List AnnotationUse := []
  signature : Option Signature := none

def readMember (draft : Draft) (member : String × Data) : Except DecodeError Draft :=
  match member.1 with
  | "kind" =>
      (DeclarationKind.decode member.2).map (fun kind => { draft with kind := some kind })
  | "name" => member.2.asText.map (fun name => { draft with name := some name })
  | "annotations" =>
      (AnnotationUse.decodeItems member.2).map (fun annotations => { draft with annotations })
  | "signature" =>
      (member.2.asOption Signature.decode).map (fun signature => { draft with signature })
  | _ => .ok draft

/-- Reading a declaration, whose annotations and signature may be left out. -/
def decode : Data → Except DecodeError Declaration
  | .record members => do
      let draft ← members.foldlM readMember {}
      let kind ← Data.required "kind" draft.kind
      let name ← Data.required "name" draft.name
      pure { kind, name, annotations := draft.annotations, signature := draft.signature }
  | .sequence items => do
      let kind ← Data.field "Element" 4 items 0 DeclarationKind.decode
      let name ← Data.field "Element" 4 items 1 Data.asText
      let annotations ← Data.fieldOr [] items 2 AnnotationUse.decodeItems
      let signature ← Data.fieldOr none items 3 (Data.asOption Signature.decode)
      Data.noFurther 4 items
      pure { kind, name, annotations, signature }
  | data => data.mismatch "struct Element"

instance : Stored Declaration := ⟨encode, decode⟩

end Declaration

end QualifierBindings
