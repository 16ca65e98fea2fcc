import QualifierBindings.Log.Directive
import QualifierBindings.Log.Record

/-! Log filters: a list of directives, of which the most specific one that speaks of
a record's target decides.
-/

namespace QualifierBindings

/-- The directives of a filter in the order in which they were given. -/
structure LogFilter where
  directives : List Directive
deriving DecidableEq

namespace LogFilter

/-- Reading a list of directives, given how a single one is read: they stand between commas,
empty pieces aside. One bad piece spoils the whole list. -/
def readAll? {D : Type} (read? : List Char → Option D) (text : String) : Option (List D) :=
  ((Text.split ',' text.toList).filter (fun piece => !piece.isEmpty)).mapM read?

/-- Directives in order of specificity, later ones replacing earlier ones of the same
scope. -/
def arrange (directives : List Directive) : List Directive :=
  directives.foldl (fun placed directive => directive.place placed) []

def recordRules (filter : LogFilter) : List Directive :=
  arrange (filter.directives.filter (fun directive => directive.span.isNone))

def spanRules (filter : LogFilter) : List Directive :=
  arrange (filter.directives.filter (fun directive => directive.span.isSome))

def widest (directives : List Directive) : Threshold :=
  directives.foldl (fun widest directive => widest.max directive.threshold) .off

/-- The most verbose threshold of all directives, replaced ones included. -/
def maxLevel (filter : LogFilter) : Threshold :=
  widest filter.directives

def allows (filter : LogFilter) (record : LogRecord) : Bool :=
  (widest (filter.directives.filter (fun directive => directive.span.isNone))).allows record.level
    && (match filter.recordRules.find? (fun directive => directive.covers record.target) with
        | some directive => directive.threshold.allows record.level
        | none => false)

def text (filter : LogFilter) : String :=
  String.intercalate "," ((filter.recordRules ++ filter.spanRules).map Directive.text)

end LogFilter

end QualifierBindings
