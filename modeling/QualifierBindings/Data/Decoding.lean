import QualifierBindings.Data.Basic
import QualifierBindings.Decimal.Shortest
import QualifierBindings.Text.Quoted

/-! Reading typed values out of structured data. A record is read member by member
in the order in which they stand, a sequence field by field; the first failure ends
the reading, and only then are absent members missed.
-/

namespace QualifierBindings

/-- What stands where something else is expected. -/
inductive Found where
  | null
  | boolean (value : Bool)
  | integer (value : Int)
  | real (value : Float)
  | text (value : String)
  | sequence
  | map
  | unitVariant

/-- The wording of what was found, with the given text of real numbers. -/
def Found.wording (realText : Float → String) : Found → String
  | .null => "null"
  | .boolean value => "boolean `" ++ (if value then "true" else "false") ++ "`"
  | .integer value => "integer `" ++ toString value ++ "`"
  | .real value => "floating point `" ++ realText value ++ "`"
  | .text value => "string " ++ Text.quoted value
  | .sequence => "sequence"
  | .map => "map"
  | .unitVariant => "unit variant"

/-- Why data cannot be read as a value of some type. -/
inductive DecodeError where
  | invalidType (found : Found) (expected : String)
  | invalidValue (found : Found) (expected : String)
  | missingField (name : String)
  | invalidLength (length : Nat) (expected : String)
  | unknownVariant (name : String) (variants : List String)

def DecodeError.ticked (name : String) : String :=
  "`" ++ name ++ "`"

def DecodeError.alternatives : List String → String
  | [] => "there are no variants"
  | [only] => "expected " ++ ticked only
  | [first, second] => "expected " ++ ticked first ++ " or " ++ ticked second
  | many => "expected one of " ++ String.intercalate ", " (many.map ticked)

/-- The wording of a failed reading, with the given text of real numbers. -/
def DecodeError.message (realText : Float → String) : DecodeError → String
  | .invalidType found expected =>
      "invalid type: " ++ found.wording realText ++ ", expected " ++ expected
  | .invalidValue found expected =>
      "invalid value: " ++ found.wording realText ++ ", expected " ++ expected
  | .missingField name => "missing field `" ++ name ++ "`"
  | .invalidLength length expected =>
      "invalid length " ++ toString length ++ ", expected " ++ expected
  | .unknownVariant name variants =>
      "unknown variant `" ++ name ++ "`, " ++ alternatives variants

namespace Data

variable {α β : Type}

/-- What a value is found to be where another kind of data is expected. -/
def found : Data → Found
  | .null => .null
  | .boolean value => .boolean value
  | .integer value => .integer value
  | .real value => .real value
  | .text value => .text value
  | .sequence _ => .sequence
  | .record _ => .map

def mismatch (data : Data) (expected : String) : Except DecodeError α :=
  .error (.invalidType data.found expected)

def asText : Data → Except DecodeError String
  | .text value => .ok value
  | data => data.mismatch "a string"

def asBoolean : Data → Except DecodeError Bool
  | .boolean value => .ok value
  | data => data.mismatch "a boolean"

def asByte : Data → Except DecodeError UInt8
  | .integer value =>
      if 0 ≤ value ∧ value ≤ 255 then .ok (UInt8.ofNat value.toNat)
      else .error (.invalidValue (.integer value) "u8")
  | data => data.mismatch "u8"

def asList (read : Data → Except DecodeError α) : Data → Except DecodeError (List α)
  | .sequence items => items.mapM read
  | data => data.mismatch "a sequence"

/-- Reading a value that may be null. -/
def asOption (read : Data → Except DecodeError α) : Data → Except DecodeError (Option α)
  | .null => .ok none
  | data => (read data).map some

def asNameMap (read : Data → Except DecodeError α) : Data → Except DecodeError (NameMap α)
  | .record members => do
      let entries ← members.mapM (fun member => do
        let value ← read member.2
        pure (member.1, value))
      pure (.ofList entries)
  | data => data.mismatch "a map"

/-- A variant is named by a text or by the only member of a record, which holds its
content. -/
def asVariant : Data → Except DecodeError (String × Option Data)
  | .text name => .ok (name, none)
  | .record [(name, content)] => .ok (name, some content)
  | .record _ => .error (.invalidValue .map "map with a single key")
  | data => data.mismatch "string or map"

/-- A variant without content takes none, or null. -/
def noContent : Option Data → Except DecodeError Unit
  | none => .ok ()
  | some .null => .ok ()
  | some data => data.mismatch "unit"

def content (read : Data → Except DecodeError α) : Option Data → Except DecodeError α
  | none => .error (.invalidType .unitVariant "newtype variant")
  | some data => read data

def asOneOf (values : List α) (name : α → String) (data : Data) : Except DecodeError α := do
  let (variant, rest) ← data.asVariant
  match values.find? (fun value => name value = variant) with
  | none => .error (.unknownVariant variant (values.map name))
  | some value => do
      noContent rest
      pure value

def required (name : String) : Option α → Except DecodeError α
  | none => .error (.missingField name)
  | some value => .ok value

def sized (structureName : String) (fields : Nat) : String :=
  "struct " ++ structureName ++ " with " ++ toString fields
    ++ (if fields = 1 then " element" else " elements")

def field (structureName : String) (fields : Nat) (items : List Data) (position : Nat)
    (read : Data → Except DecodeError α) : Except DecodeError α :=
  match items[position]? with
  | some data => read data
  | none => .error (.invalidLength items.length (sized structureName fields))

/-- The field at a position of a sequence that may end before it. -/
def fieldOr (default : α) (items : List Data) (position : Nat)
    (read : Data → Except DecodeError α) : Except DecodeError α :=
  match items[position]? with
  | some data => read data
  | none => .ok default

/-- A sequence must not hold more items than there are fields. -/
def noFurther (fields : Nat) (items : List Data) : Except DecodeError Unit :=
  if fields < items.length then .error (.invalidLength items.length "fewer elements in array")
  else .ok ()

def asPair (first : Data → Except DecodeError α) (second : Data → Except DecodeError β)
    : Data → Except DecodeError (α × β)
  | .sequence items => do
      let left ← pairItem items 0 first
      let right ← pairItem items 1 second
      noFurther 2 items
      pure (left, right)
  | data => data.mismatch "a tuple of size 2"
where
  /-- One item of a pair. -/
  pairItem {γ : Type} (items : List Data) (position : Nat) (read : Data → Except DecodeError γ)
      : Except DecodeError γ :=
    match items[position]? with
    | some data => read data
    | none => .error (.invalidLength items.length "a tuple of size 2")

def errorMessage (error : DecodeError) : String :=
  error.message (Decimal.Format.compact.floatText)

end Data

/-- Types whose values are stored as structured data. -/
class Stored (α : Type) where
  encode : α → Data
  decode : Data → Except DecodeError α

end QualifierBindings
