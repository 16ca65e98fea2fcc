import QualifierBindings.Data.Basic
import QualifierBindings.Decimal.Shortest

/-! The text of an answer, which is structured data written as compact JSON. Text is how a program
around this library answers a request; what the library stores ends at structured data.
-/

namespace QualifierBindings.Data

/-- One character of a JSON string. Quotes, backslashes and control characters are
escaped, all others stand for themselves. -/
def printChar (c : Char) : String :=
  match c with
  | '"' => "\\\""
  | '\\' => "\\\\"
  | '\x08' => "\\b"
  | '\x0c' => "\\f"
  | '\n' => "\\n"
  | '\r' => "\\r"
  | '\t' => "\\t"
  | c =>
      if c.toNat < 0x20 then
        "\\u" ++ String.ofList (List.replicate (4 - (Nat.toDigits 16 c.toNat).length) '0')
          ++ String.ofList (Nat.toDigits 16 c.toNat)
      else c.toString

def printText (text : String) : String :=
  "\"" ++ String.join (text.toList.map printChar) ++ "\""

mutual

def print : Data → String
  | .null => "null"
  | .boolean value => if value then "true" else "false"
  | .integer value => toString value
  | .real value => Decimal.Format.compact.floatText value
  | .text value => printText value
  | .sequence items => "[" ++ String.intercalate "," (printItems items) ++ "]"
  | .record members => "\x7b" ++ String.intercalate "," (printMembers members) ++ "\x7d"

def printItems : List Data → List String
  | [] => []
  | item :: rest => print item :: printItems rest

def printMembers : List (String × Data) → List String
  | [] => []
  | (name, value) :: rest => (printText name ++ ":" ++ print value) :: printMembers rest

end

end QualifierBindings.Data
