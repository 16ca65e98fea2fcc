import QualifierBindings.Config.Basic
import QualifierBindings.Toml.Value

/-! Reading a configuration from the tables of a TOML document. Keys are visited in
the order of the document and the first wrong value decides; keys that the
configuration does not know are passed over.
-/

namespace QualifierBindings

/-- Why a value of a document does not fit the configuration. -/
inductive ShapeError where
  | mismatch (error : DecodeError)
  | notTextOrTable
  | noEntry
  | severalEntries
  | filledArray
  | filledTable
  | notTable (found : String)

def ShapeError.message : ShapeError → String
  | .mismatch error => error.message Decimal.Format.plain.floatText
  | .notTextOrTable => "wanted string or table"
  | .noEntry => "wanted exactly 1 element, found 0 elements"
  | .severalEntries => "wanted exactly 1 element, more than 1 element"
  | .filledArray => "expected empty array"
  | .filledTable => "expected empty table"
  | .notTable found => "expected table, found " ++ found

namespace Toml.Value

def mismatch {α : Type} (value : Value) (expected : String) : Except ShapeError α :=
  .error (.mismatch (.invalidType value.found expected))

def asText : Value → Except ShapeError String
  | .text value => .ok value
  | value => value.mismatch "a string"

def asBoolean : Value → Except ShapeError Bool
  | .boolean value => .ok value
  | value => value.mismatch "a boolean"

/-- The content of a variant without content: an empty table or an empty array. A
filled array is refused in the words for a table unless headers opened its tables. -/
def asNothing : Value → Except ShapeError Unit
  | .table [] => .ok ()
  | .table _ => .error .filledTable
  | .array [] => .ok ()
  | .array _ => .error .filledTable
  | .tables [] => .ok ()
  | .tables _ => .error .filledArray
  | value => .error (.notTable value.kindName)

/-- A variant is named by a text or by the only key of a table, which holds its content. -/
def asVariant : Value → Except ShapeError (String × Option Value)
  | .text name => .ok (name, none)
  | .table [] => .error .noEntry
  | .table [(name, content)] => .ok (name, some content)
  | .table _ => .error .severalEntries
  | _ => .error .notTextOrTable

/-- Reading a structure: a table member by member, or an array whose items are the
fields in order, of which later ones may be missing and further ones are ignored. -/
def asFields {S : Type} (name : String) (fields : List String) (start : S)
    (read : S → String × Value → Except ShapeError S) (value : Value) : Except ShapeError S :=
  match value.members?, value.items? with
  | some members, _ => members.foldlM read start
  -- items without a field are dropped by the shorter list of fields
  | none, some items => (fields.zip items).foldlM read start
  | none, none => value.mismatch ("struct " ++ name)

end Toml.Value

/-- Reading a policy. -/
def MissingBase.ofToml (value : Toml.Value) : Except ShapeError MissingBase := do
  let (variant, content) ← value.asVariant
  match all.find? (fun missingBase => missingBase.name = variant) with
  | none => .error (.mismatch (.unknownVariant variant (all.map name)))
  | some missingBase => do
      match content with
      | none => pure missingBase
      | some content => do
          content.asNothing
          pure missingBase

namespace Config

namespace AnnotationSection

/-- The keys of the section, in the order of their declaration. -/
def keys : List String := ["package"]

def readEntry (part : AnnotationSection) (entry : String × Toml.Value)
    : Except ShapeError AnnotationSection :=
  match entry.1 with
  | "package" => entry.2.asText.map (fun package => { part with package })
  | _ => .ok part

def ofToml : Toml.Value → Except ShapeError AnnotationSection :=
  Toml.Value.asFields "AnnotationsConfig" keys {} readEntry

end AnnotationSection

namespace BoundSection

/-- The keys of the section, in the order of their declaration. -/
def keys : List String := ["missing_base"]

def readEntry (part : BoundSection) (entry : String × Toml.Value)
    : Except ShapeError BoundSection :=
  match entry.1 with
  | "missing_base" =>
      (MissingBase.ofToml entry.2).map (fun missingBase => { part with missingBase })
  | _ => .ok part

def ofToml : Toml.Value → Except ShapeError BoundSection :=
  Toml.Value.asFields "BoundsConfig" keys {} readEntry

end BoundSection

namespace LogSection

/-- The keys of the section, in the order of their declaration. -/
def keys : List String := ["level", "json"]

def readEntry (part : LogSection) (entry : String × Toml.Value)
    : Except ShapeError LogSection :=
  match entry.1 with
  | "level" => entry.2.asText.map (fun level => { part with level })
  | "json" => entry.2.asBoolean.map (fun json => { part with json })
  | _ => .ok part

def ofToml : Toml.Value → Except ShapeError LogSection :=
  Toml.Value.asFields "LoggingConfig" keys {} readEntry

end LogSection

/-- The keys that a section of the configuration knows, or none if there is no such
section. -/
def sectionKeys? : String → Option (List String)
  | "annotations" => some AnnotationSection.keys
  | "bounds" => some BoundSection.keys
  | "logging" => some LogSection.keys
  | _ => none

def readEntry (config : Config) (entry : String × Toml.Value) : Except ShapeError Config :=
  match entry.1 with
  | "annotations" =>
      (AnnotationSection.ofToml entry.2).map (fun annotations => { config with annotations })
  | "bounds" => (BoundSection.ofToml entry.2).map (fun bounds => { config with bounds })
  | "logging" => (LogSection.ofToml entry.2).map (fun logging => { config with logging })
  | _ => .ok config

def ofTable (members : List (String × Toml.Value)) : Except ShapeError Config :=
  members.foldlM readEntry {}

/-- The unknown keys below one member of the document, each as a path of keys. What an
unknown key holds is not looked at. -/
def unknownBelow (entry : String × Toml.Value) : List (List String) :=
  match sectionKeys? entry.1 with
  | none => [[entry.1]]
  | some known =>
      match entry.2.members? with
      | some members =>
          (members.filter (fun member => !known.contains member.1)).map (fun member =>
            [entry.1, member.1])
      | none => []

/-- The unknown keys of a document in its order. -/
def unknownPaths (members : List (String × Toml.Value)) : List (List String) :=
  members.flatMap unknownBelow

/-- A path of keys as it is reported: the keys joined by dots, without dots at the
front. -/
def pathText (path : List String) : String :=
  String.ofList ((String.intercalate "." path).toList.dropWhile (fun c => c = '.'))

/-- The texts of the unknown keys, each once and in ascending order. -/
def unknownKeys (members : List (String × Toml.Value)) : List String :=
  NameMap.names (.ofList ((unknownPaths members).map (fun path => (pathText path, ()))))

end Config

end QualifierBindings
