import QualifierBindings.NameMap

/-! Structured data, in which everything is stored. JSON is its text form.
-/

namespace QualifierBindings

/-- A value of structured data. The members of a record stand in ascending order of
their names where a text was read. -/
inductive Data where
  | null
  | boolean (value : Bool)
  | integer (value : Int)
  | real (value : Float)
  | text (value : String)
  | sequence (items : List Data)
  | record (members : List (String × Data))

namespace Data

def member? : Data → String → Option Data
  | .record members, name => Entries.get? name members
  | _, _ => none

/-- A text, or null. -/
def ofText? : Option String → Data
  | none => .null
  | some value => .text value

def texts (values : List String) : Data :=
  .sequence (values.map .text)

end Data

end QualifierBindings
