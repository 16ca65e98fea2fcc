import QualifierBindings.Config.Logging

/-! Configurations that can be read but make no sense.
-/

namespace QualifierBindings.Config

/-- Why a package name is refused. -/
inductive PackageFault where
  | blank
  | emptySegment
  | holdsBlank
deriving DecidableEq

def PackageFault.message : PackageFault → String
  | .blank => "must not be empty"
  | .emptySegment => "must be a dotted package name without empty segments"
  | .holdsBlank => "must not contain whitespace"

def hasDoubleDot : List Char → Bool
  | '.' :: '.' :: _ => true
  | _ :: rest => hasDoubleDot rest
  | [] => false

def packageFault? (package : String) : Option PackageFault :=
  let cs := package.toList
  if (Text.trimChars cs).isEmpty then some .blank
  else if cs.head? = some '.' || cs.getLast? = some '.' || hasDoubleDot cs then some .emptySegment
  else if cs.any Text.isBlank then some .holdsBlank
  else none

/-- A value that is refused, with the path of its key. -/
structure InvalidValue where
  path : String
  fault : PackageFault
deriving DecidableEq

/-- A log level that is no list of directives, and its normal form. -/
structure InvalidLevel where
  value : String
  normalized : String
deriving DecidableEq

def packageErrors (config : Config) : List InvalidValue :=
  (packageFault? config.annotations.package).toList.map (fun fault =>
    { path := "annotations.package", fault })

/-- The level is reported when it cannot be read, given how a single directive is read. -/
def levelWarningsBy {D : Type} (read? : List Char → Option D) (config : Config)
    : List InvalidLevel :=
  let level := config.logging.level
  let normalized := LogSection.normalizeLevel level
  if !(Text.trim level).isEmpty && (LogFilter.readAll? read? normalized).isNone then
    [{ value := level, normalized }]
  else []

def levelWarnings (config : Config) : List InvalidLevel :=
  config.levelWarningsBy Directive.parse?

end QualifierBindings.Config
