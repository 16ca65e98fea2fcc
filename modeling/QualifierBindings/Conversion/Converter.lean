import QualifierBindings.Conversion.Adjustment
import QualifierBindings.Conversion.Collection
import QualifierBindings.Taint

/-! Converting the annotations of one type use to the bindings of its qualifier
parameters. The modifiers are applied only after every annotation has contributed
its binding.
-/

namespace QualifierBindings

/-- What a conversion depends on besides the annotations. -/
structure Converter (Q : Type) where
  vocabulary : Vocabulary
  hierarchy : Hierarchy Q
  missingBase : MissingBase

namespace Converter

variable {Q : Type}

def ofConfig (config : Config) (hierarchy : Hierarchy Q) : Converter Q :=
  { vocabulary := { package := config.annotations.package },
    hierarchy,
    missingBase := config.bounds.missingBase }

/-- The clauses of annotations in order. -/
def clauses (converter : Converter Q) (annotations : List AnnotationUse) : List Clause :=
  Clause.ofUses converter.vocabulary annotations

/-- The second pass as a report whose value is the adjusted bindings. -/
def adjusted (converter : Converter Q) (bindings : Bindings Q) (clauses : List Clause)
    : Report Q (Bindings Q) :=
  let adjustment :=
    Clause.adjustAll converter.hierarchy.toGroundLattice converter.missingBase bindings clauses
  { events := adjustment.events,
    outcome := adjustment.outcome.map (fun _ => adjustment.bindings) }

/-- The bindings of one type use, or none when its annotations bind no parameter. -/
def convert (converter : Converter Q) (annotations : List AnnotationUse)
    : Report Q (Option (Bindings Q)) := do
  let clauses := converter.clauses annotations
  let collected ← Clause.collect converter.hierarchy .empty clauses
  let bindings ← converter.adjusted collected clauses
  Report.tell [.converted annotations.length bindings.size]
  pure (if bindings.isEmpty then none else some bindings)

/-- Whether an annotation bears on parameters of a type use, decided by its name. -/
def supports (converter : Converter Q) (use : AnnotationUse) : Bool :=
  match converter.vocabulary.classify? use.name with
  | none => false
  | some .taintingParam => false
  | some _ => true

end Converter

end QualifierBindings
