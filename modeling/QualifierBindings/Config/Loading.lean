import QualifierBindings.Config.Shape
import QualifierBindings.Config.Validation
import QualifierBindings.Toml.Parser

/-! Loading a configuration from the text of a TOML document, plainly or together with
everything that is wrong with it.
-/

namespace QualifierBindings

/-- Why the file of a configuration cannot be read. -/
inductive FileFault where
  | notFound
  | notDirectory
  | isDirectory
  | invalidText
deriving DecidableEq

def FileFault.message : FileFault → String
  | .notFound => "No such file or directory (os error 2)"
  | .notDirectory => "Not a directory (os error 20)"
  | .isDirectory => "Is a directory (os error 21)"
  | .invalidText => "stream did not contain valid UTF-8"

/-- Why a configuration cannot be loaded. -/
inductive ConfigError where
  | unreadable (path : String) (fault : FileFault)
  /-- The text is no TOML document. -/
  | malformed
  | misshapen (error : ShapeError)

/-- The wording of a failure to load. What is wrong with a malformed text is not told
apart. -/
def ConfigError.message : ConfigError → String
  | .unreadable path fault => "failed to read config file " ++ path ++ ": " ++ fault.message
  | .malformed => "failed to parse toml config"
  | .misshapen error => "failed to parse toml config: " ++ error.message

/-- Everything that is wrong with a configuration that can be loaded. -/
structure Diagnostics where
  unknownKeys : List String
  warnings : List Config.InvalidLevel
  errors : List Config.InvalidValue
deriving DecidableEq

namespace Diagnostics

def isEmpty (diagnostics : Diagnostics) : Bool :=
  diagnostics.unknownKeys.isEmpty && diagnostics.warnings.isEmpty && diagnostics.errors.isEmpty

def isOk (diagnostics : Diagnostics) : Bool :=
  diagnostics.errors.isEmpty

end Diagnostics

namespace Config

def ofDocument (members : List (String × Toml.Value)) : Except ConfigError Config :=
  match ofTable members with
  | .ok config => .ok config
  | .error error => .error (.misshapen error)

/-- What is wrong with a configuration that was read from a document. -/
def diagnose (members : List (String × Toml.Value)) (config : Config) : Diagnostics :=
  { unknownKeys := unknownKeys members,
    warnings := config.levelWarnings,
    errors := config.packageErrors }

section Reader

variable (read? : String → Option (List (String × Toml.Value)))

/-- The members of a document, given how documents are read. -/
def document (text : String) : Except ConfigError (List (String × Toml.Value)) :=
  match read? text with
  | some members => .ok members
  | none => .error .malformed

def loadBy (text : String) : Except ConfigError Config := do
  let members ← document read? text
  ofDocument members

/-- Loading a configuration from a text together with its diagnostics, given how documents are
read. -/
def loadWithDiagnosticsBy (text : String) : Except ConfigError (Config × Diagnostics) := do
  let members ← document read? text
  let config ← ofDocument members
  pure (config, diagnose members config)

end Reader

def load : String → Except ConfigError Config :=
  loadBy Toml.parse?

def loadWithDiagnostics : String → Except ConfigError (Config × Diagnostics) :=
  loadWithDiagnosticsBy Toml.parse?

end Config

end QualifierBindings
