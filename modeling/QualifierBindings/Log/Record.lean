import QualifierBindings.Log.Level

/-! Log records: a level, the part of the program that speaks, a message and
named fields in the order in which they were given.
-/

namespace QualifierBindings

/-- The value of one field of a log record. -/
inductive FieldValue where
  /-- The display text of a value. -/
  | display (text : String)
  /-- A string, quoted where the record is written as a line. -/
  | text (value : String)
  | count (value : Nat)
  | flag (value : Bool)
deriving DecidableEq

/-- One log record. -/
structure LogRecord where
  level : Level
  target : String
  message : String
  fields : List (String × FieldValue)
deriving DecidableEq

end QualifierBindings
