import QualifierBindings.Bindings
import QualifierBindings.Data.Decoding
import QualifierBindings.Taint

/-! The stored forms of qualifiers, variables, ranges and bindings.
-/

namespace QualifierBindings

namespace Taint

def encode (taint : Taint) : Data :=
  .text taint.text

def decode : Data → Except DecodeError Taint :=
  Data.asOneOf all text

instance : Stored Taint := ⟨encode, decode⟩

end Taint

/-- A set of bits is stored as the number whose binary digits they are. -/
instance : Stored UInt8 :=
  ⟨fun bits => .integer (Int.ofNat bits.toNat), Data.asByte⟩

variable {Q : Type} [Stored Q]

namespace Variable

def encode (var : Variable Q) : Data :=
  .record [("lower", Stored.encode var.lower), ("name", .text var.name),
    ("upper", Stored.encode var.upper)]

/-- The fields of a variable read so far. -/
structure Draft (Q : Type) where
  name : Option String := none
  lower : Option Q := none
  upper : Option Q := none

def readMember (draft : Draft Q) (member : String × Data) : Except DecodeError (Draft Q) :=
  match member.1 with
  | "name" => member.2.asText.map (fun name => { draft with name := some name })
  | "lower" => (Stored.decode member.2).map (fun lower => { draft with lower := some lower })
  | "upper" => (Stored.decode member.2).map (fun upper => { draft with upper := some upper })
  | _ => .ok draft

def decode : Data → Except DecodeError (Variable Q)
  | .record members => do
      let draft ← members.foldlM readMember {}
      let name ← Data.required "name" draft.name
      let lower ← Data.required "lower" draft.lower
      let upper ← Data.required "upper" draft.upper
      pure { name, lower, upper }
  | .sequence items => do
      let name ← Data.field "QualVar" 3 items 0 Data.asText
      let lower ← Data.field "QualVar" 3 items 1 Stored.decode
      let upper ← Data.field "QualVar" 3 items 2 Stored.decode
      Data.noFurther 3 items
      pure { name, lower, upper }
  | data => data.mismatch "struct QualVar"

instance : Stored (Variable Q) := ⟨encode, decode⟩

end Variable

namespace Qualifier

def encode : Qualifier Q → Data
  | .ground value => .record [("Ground", Stored.encode value)]
  | .symbolic var => .record [("Var", var.encode)]

def decode (data : Data) : Except DecodeError (Qualifier Q) := do
  let (variant, rest) ← data.asVariant
  match variant with
  | "Ground" => (Data.content Stored.decode rest).map .ground
  | "Var" => (Data.content Variable.decode rest).map .symbolic
  | _ => .error (.unknownVariant variant ["Ground", "Var"])

instance : Stored (Qualifier Q) := ⟨encode, decode⟩

end Qualifier

namespace Range

def encode (range : Range Q) : Data :=
  .record [("lower", range.lower.encode), ("upper", range.upper.encode)]

/-- The bounds of a range read so far. -/
structure Draft (Q : Type) where
  lower : Option (Qualifier Q) := none
  upper : Option (Qualifier Q) := none

def readMember (draft : Draft Q) (member : String × Data) : Except DecodeError (Draft Q) :=
  match member.1 with
  | "lower" => (Qualifier.decode member.2).map (fun lower => { draft with lower := some lower })
  | "upper" => (Qualifier.decode member.2).map (fun upper => { draft with upper := some upper })
  | _ => .ok draft

def decode : Data → Except DecodeError (Range Q)
  | .record members => do
      let draft ← members.foldlM readMember {}
      let lower ← Data.required "lower" draft.lower
      let upper ← Data.required "upper" draft.upper
      pure { lower, upper }
  | .sequence items => do
      let lower ← Data.field "Wildcard" 2 items 0 Qualifier.decode
      let upper ← Data.field "Wildcard" 2 items 1 Qualifier.decode
      Data.noFurther 2 items
      pure { lower, upper }
  | data => data.mismatch "struct Wildcard"

instance : Stored (Range Q) := ⟨encode, decode⟩

end Range

namespace Bindings

def encode (bindings : Bindings Q) : Data :=
  .record (bindings.entries.map (fun entry => (entry.1, entry.2.encode)))

def decode : Data → Except DecodeError (Bindings Q) :=
  Data.asNameMap Range.decode

instance : Stored (Bindings Q) := ⟨encode, decode⟩

end Bindings

end QualifierBindings
