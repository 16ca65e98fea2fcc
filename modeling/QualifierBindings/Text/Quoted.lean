import QualifierBindings.Text.Extending
import QualifierBindings.Text.Unprintable

/-! Strings quoted for a message: between double quotes, with escapes for quotes,
backslashes and every character that would not be seen on its own.
-/

namespace QualifierBindings.Text

/-- The hexadecimal digits of a number, in lower case and without leading zeros. -/
def hexDigits (n : Nat) : String :=
  String.ofList (Nat.toDigits 16 n)

def quotedChar (c : Char) : String :=
  match c with
  | '\x00' => "\\0"
  | '\t' => "\\t"
  | '\n' => "\\n"
  | '\r' => "\\r"
  | '"' => "\\\""
  | '\\' => "\\\\"
  | c =>
      if isExtending c || isUnprintable c then "\\u\x7b" ++ hexDigits c.toNat ++ "\x7d"
      else c.toString

def quoted (text : String) : String :=
  "\"" ++ String.join (text.toList.map quotedChar) ++ "\""

end QualifierBindings.Text
