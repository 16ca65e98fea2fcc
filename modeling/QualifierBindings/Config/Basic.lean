/-! The configuration: where the annotations live, what becomes of a bound
modifier without a base, and how much is logged.
-/

namespace QualifierBindings

/-- What becomes of a bound modifier whose parameter has no base binding. -/
inductive MissingBase where
  /-- The annotations are rejected. -/
  | error
  /-- The modifier is skipped with a warning. -/
  | warn
deriving DecidableEq

/-- The spelling of a policy in a configuration. -/
def MissingBase.name : MissingBase → String
  | .error => "error"
  | .warn => "warn"

/-- Both policies, in the order in which messages list them. -/
def MissingBase.all : List MissingBase := [.error, .warn]

namespace Config

/-- The package of the qualifier annotations unless another one is configured. -/
def defaultPackage : String :=
  "org.checkerframework.checker.experimental.tainting_qual_poly.qual"

/-- The log level unless another one is configured. -/
def defaultLevel : String := "info"

/-- Where the qualifier annotations live. -/
structure AnnotationSection where
  package : String := defaultPackage
deriving DecidableEq

/-- How bounds are adjusted. -/
structure BoundSection where
  missingBase : MissingBase := .error
deriving DecidableEq

/-- How much is logged: a level or a list of filter directives, and whether each
record is written as JSON. -/
structure LogSection where
  level : String := defaultLevel
  json : Bool := false
deriving DecidableEq

end Config

/-- A whole configuration; every part has a default. -/
structure Config where
  annotations : Config.AnnotationSection := {}
  bounds : Config.BoundSection := {}
  logging : Config.LogSection := {}
deriving DecidableEq

end QualifierBindings
