import QualifierBindings.Data.Decoding

/-! Stored values are read back from their stored form, which is structured data. How such data is
written as text is no matter of storage.
-/

namespace QualifierBindings

/-- What undoes the writing of each item undoes that of a list. -/
theorem Except.mapM_map_of_inverse {α β ε : Type} {write : α → β} {read : β → Except ε α}
    (inverse : ∀ value, read (write value) = .ok value) (values : List α)
    : (values.map write).mapM read = .ok values := by
  induction values with
  | nil => rfl
  | cons value rest ih =>
      rw [List.map_cons, List.mapM_cons, inverse, ih]
      rfl

namespace Data

variable {α : Type} {read : Data → Except DecodeError α}

/-- What is present is read as present when it is not stored as null. -/
theorem asOption_of_decoded {data : Data} {value : α} (present : data ≠ .null)
    (decoded : read data = .ok value)
    : data.asOption read = .ok (some value) := by
  rw [asOption, decoded]
  · rfl
  · exact present

/-- A map comes out of a record with the same names. -/
theorem asNameMap_mapValues {write : α → Data} (inverse : ∀ value, read (write value) = .ok value)
    (map : NameMap α)
    : (record (Entries.mapValues write map.entries)).asNameMap read = .ok map := by
  have entries
      : (Entries.mapValues write map.entries).mapM (fun member => do
          let value ← read member.2
          pure (member.1, value))
        = .ok map.entries :=
    Except.mapM_map_of_inverse (fun entry => by rw [inverse]; rfl) map.entries
  rw [asNameMap, entries]
  exact congrArg Except.ok map.ofList_entries

end Data

namespace Stored

variable {α : Type} [Stored α]

/-- Every value is read back from its stored form. -/
def Lossless (α : Type) [Stored α] : Prop :=
  ∀ value : α, decode (encode value) = .ok value

/-- What can be read back determines the value it was made from. -/
theorem Lossless.encode_injective (lossless : Lossless α)
    : Function.Injective (encode : α → Data) := by
  intro left right same
  have read : (.ok left : Except DecodeError α) = .ok right := by
    rw [← lossless left, same, lossless right]
  exact Except.ok.inj read

/-- Nothing of a type's values is lost in storage: all of them are read back from their stored
form, and no two have the same one.
-/
structure Kept (α : Type) [Stored α] : Prop where
  lossless : Lossless α
  encode_injective : Function.Injective (encode : α → Data)

/-- What is read back is kept. -/
theorem Lossless.kept (lossless : Lossless α) : Kept α :=
  ⟨lossless, lossless.encode_injective⟩

end Stored

end QualifierBindings
