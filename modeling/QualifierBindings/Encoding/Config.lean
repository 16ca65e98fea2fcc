import QualifierBindings.Config.Basic
import QualifierBindings.Data.Decoding

/-! The stored form of a configuration in structured data. Every part of it may be
left out.
-/

namespace QualifierBindings

namespace MissingBase

/-- A policy is stored as its spelling. -/
def encode (missingBase : MissingBase) : Data :=
  .text missingBase.name

/-- Reading a policy. -/
def decode : Data → Except DecodeError MissingBase :=
  Data.asOneOf all name

instance : Stored MissingBase := ⟨encode, decode⟩

end MissingBase

namespace Config

namespace AnnotationSection

def encode (part : AnnotationSection) : Data :=
  .record [("package", .text part.package)]

def readMember (part : AnnotationSection) (member : String × Data)
    : Except DecodeError AnnotationSection :=
  match member.1 with
  | "package" => member.2.asText.map (fun package => { part with package })
  | _ => .ok part

def decode : Data → Except DecodeError AnnotationSection
  | .record members => members.foldlM readMember {}
  | .sequence items => do
      let package ← Data.fieldOr defaultPackage items 0 Data.asText
      Data.noFurther 1 items
      pure { package }
  | data => data.mismatch "struct AnnotationsConfig"

end AnnotationSection

namespace BoundSection

/-- The section of bounds is stored as its policy. -/
def encode (part : BoundSection) : Data :=
  .record [("missing_base", part.missingBase.encode)]

def readMember (part : BoundSection) (member : String × Data) : Except DecodeError BoundSection :=
  match member.1 with
  | "missing_base" =>
      (MissingBase.decode member.2).map (fun missingBase => { part with missingBase })
  | _ => .ok part

def decode : Data → Except DecodeError BoundSection
  | .record members => members.foldlM readMember {}
  | .sequence items => do
      let missingBase ← Data.fieldOr .error items 0 MissingBase.decode
      Data.noFurther 1 items
      pure { missingBase }
  | data => data.mismatch "struct BoundsConfig"

end BoundSection

namespace LogSection

/-- The section of logging is stored as its level and its format. -/
def encode (part : LogSection) : Data :=
  .record [("json", .boolean part.json), ("level", .text part.level)]

def readMember (part : LogSection) (member : String × Data) : Except DecodeError LogSection :=
  match member.1 with
  | "level" => member.2.asText.map (fun level => { part with level })
  | "json" => member.2.asBoolean.map (fun json => { part with json })
  | _ => .ok part

def decode : Data → Except DecodeError LogSection
  | .record members => members.foldlM readMember {}
  | .sequence items => do
      let level ← Data.fieldOr defaultLevel items 0 Data.asText
      let json ← Data.fieldOr false items 1 Data.asBoolean
      Data.noFurther 2 items
      pure { level, json }
  | data => data.mismatch "struct LoggingConfig"

instance : Stored LogSection := ⟨encode, decode⟩

end LogSection

def encode (config : Config) : Data :=
  .record [("annotations", config.annotations.encode), ("bounds", config.bounds.encode),
    ("logging", config.logging.encode)]

def readMember (config : Config) (member : String × Data) : Except DecodeError Config :=
  match member.1 with
  | "annotations" =>
      (AnnotationSection.decode member.2).map (fun annotations => { config with annotations })
  | "bounds" => (BoundSection.decode member.2).map (fun bounds => { config with bounds })
  | "logging" => (LogSection.decode member.2).map (fun logging => { config with logging })
  | _ => .ok config

def decode : Data → Except DecodeError Config
  | .record members => members.foldlM readMember {}
  | .sequence items => do
      let annotations ← Data.fieldOr {} items 0 AnnotationSection.decode
      let bounds ← Data.fieldOr {} items 1 BoundSection.decode
      let logging ← Data.fieldOr {} items 2 LogSection.decode
      Data.noFurther 3 items
      pure { annotations, bounds, logging }
  | data => data.mismatch "struct QualPolyConfig"

instance : Stored Config := ⟨encode, decode⟩

end Config

end QualifierBindings
