import QualifierBindings.Config.Basic
import QualifierBindings.Log.Filter

/-! The log filter in effect: the configured level together with the directives of
the environment, a malformed one of the two giving way to the other.
-/

namespace QualifierBindings.Config.LogSection

/-- The names of levels in any case of letters, with their usual spelling. -/
def levelNames : List (String × String) :=
  [("trace", "trace"), ("debug", "debug"), ("info", "info"), ("warn", "warn"),
    ("warning", "warn"), ("error", "error")]

/-- A configured level without blanks around it. A blank one becomes the default
level, a level name its usual spelling; other directives stay as they are. -/
def normalizeLevel (level : String) : String :=
  let trimmed := Text.trim level
  if trimmed.isEmpty then defaultLevel
  else
    match levelNames.lookup (String.ofList (trimmed.toList.map Char.toLower)) with
    | some name => name
    | none => trimmed

/-- The directives of the environment without blanks around them, unless blank. -/
def environmentDirectives (environment : Option String) : Option String :=
  (environment.map Text.trim).filter (fun directives => !directives.isEmpty)

/-- The directive lists to try in order: level and environment together, so that the
environment wins where both name a target, then each of them alone. -/
def candidates (part : LogSection) (environment : Option String) : List String :=
  let level := normalizeLevel part.level
  match environmentDirectives environment with
  | none => [level]
  | some directives => [level ++ "," ++ directives, directives, level]

/-- The directives in effect, given how a single one is read: those of the first candidate that
can be read, or the default one. -/
def directives {D : Type} (read? : List Char → Option D) (default : D) (part : LogSection)
    (environment : Option String) : List D :=
  ((part.candidates environment).findSome? (LogFilter.readAll? read?)).getD [default]

/-- The filter in effect. -/
def filter (part : LogSection) (environment : Option String) : LogFilter :=
  { directives := part.directives Directive.parse? (.upTo .info) environment }

end QualifierBindings.Config.LogSection
