import QualifierBindings.Log.Record
import QualifierBindings.Text.Quoted

/-! Log records written as lines.
-/

namespace QualifierBindings

def FieldValue.line : FieldValue → String
  | .display shown => shown
  | .text value => Text.quoted value
  | .count value => toString value
  | .flag value => if value then "true" else "false"

/-- A record on one line: level, target and message, then the fields in order. -/
def LogRecord.line (record : LogRecord) : String :=
  String.intercalate " "
    ([record.level.label, record.target ++ ":", record.message]
      ++ record.fields.map (fun field => field.1 ++ "=" ++ field.2.line))

end QualifierBindings
