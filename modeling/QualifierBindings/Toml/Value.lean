import QualifierBindings.Data.Decoding

/-! The values of a TOML document, with the members of every table in the order in
which the document gives them.
-/

namespace QualifierBindings.Toml

/-- A value of a TOML document. -/
inductive Value where
  | text (value : String)
  | integer (value : Int)
  | real (value : Float)
  | boolean (value : Bool)
  /-- A date, a time or both, as written. -/
  | moment (written : String)
  | array (items : List Value)
  | table (members : List (String × Value))
  /-- An array whose tables are opened by headers of their own. -/
  | tables (elements : List (List (String × Value)))

namespace Value

/-- What a value is found to be where another kind is expected. A date or time is
found to be a map. -/
def found : Value → Found
  | .text value => .text value
  | .integer value => .integer value
  | .real value => .real value
  | .boolean value => .boolean value
  | .moment _ => .map
  | .array _ => .sequence
  | .table _ => .map
  | .tables _ => .sequence

/-- The key of a date or time that is looked at as a table. -/
def momentKey : String := "$__toml_private_datetime"

/-- The members of a table. A date or time counts as a table of one member. -/
def members? : Value → Option (List (String × Value))
  | .table members => some members
  | .moment written => some [(momentKey, .text written)]
  | _ => none

def items? : Value → Option (List Value)
  | .array items => some items
  | .tables elements => some (elements.map .table)
  | _ => none

def kindName : Value → String
  | .text _ => "string"
  | .integer _ => "integer"
  | .real _ => "float"
  | .boolean _ => "boolean"
  | .moment _ => "datetime"
  | .array _ => "array"
  | .table _ => "table"
  | .tables _ => "array of tables"

end Value

end QualifierBindings.Toml
