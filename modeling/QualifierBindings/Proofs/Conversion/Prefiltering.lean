import QualifierBindings.Proofs.Conversion.LeafSets

/-! Filtering annotations ahead of their conversion. What a converter supports is decided by names
alone; it is exactly what the first pass takes a contribution or an error from, and the modifiers
of the second one. So a caller may leave out everything else, also inside aggregates, and still
gets the same result or the very same error.
-/

namespace QualifierBindings

variable {Q : Type}

namespace Clause

/-- A binding annotation contributes a range or an error. -/
theorem outcome_contribution_ofBinder_ne (H : Hierarchy Q) (name : String)
    (elements : Entries (ElementValue Clause)) (binder : Except ConversionError Binder)
    : (contribution H (ofBinder name elements binder)).outcome ≠ .ok none := by
  unfold ofBinder
  cases binder with
  | error error => simp [contribution, Report.fail]
  | ok binder =>
      cases target name elements <;> simp [contribution, Report.fail]

/-- An aggregate contributes what it collects, even if that is nothing, or an error. -/
theorem outcome_contribution_ofAggregate_ne (H : Hierarchy Q) (name : String)
    (elements : Entries (ElementValue Clause))
    : (contribution H (ofAggregate name elements)).outcome ≠ .ok none := by
  unfold ofAggregate
  cases Elements.requiredNested name elements "value" with
  | error error => simp [contribution, Report.fail]
  | ok clauses =>
      simp only [outcome_contribution_group]
      cases (collect H .empty clauses).outcome <;> simp [Except.map]

/-- The first pass takes nothing from a modifier, not even an error. -/
theorem outcome_contribution_ofModifier (H : Hierarchy Q) (name : String)
    (elements : Entries (ElementValue Clause)) (modifier : Modifier)
    : (contribution H (ofModifier name elements modifier)).outcome = .ok none := by
  unfold ofModifier
  cases target name elements <;> simp [contribution]

/-- Aggregates and binding annotations are what the first pass takes something from. -/
theorem outcome_contribution_ne_iff (H : Hierarchy Q) (vocabulary : Vocabulary)
    (use : AnnotationUse)
    : (contribution H (ofUse vocabulary use)).outcome ≠ .ok none
      ↔ vocabulary.classify? use.name = some .aggregate ∨ use.binds vocabulary = true := by
  rw [ofUse_eq_assemble, assemble, AnnotationUse.binds]
  cases found : vocabulary.classify? use.name with
  | none => simp [contribution]
  | some marker =>
      cases marker with
      | aggregate => simp [outcome_contribution_ofAggregate_ne]
      | tainted | untainted | var | polyTainting | wild =>
          simp [outcome_contribution_ofBinder_ne, Marker.isBinding]
      | extendsBound | superBound =>
          simp [outcome_contribution_ofModifier, Marker.isBinding]
      | taintingParam => simp [contribution, Marker.isBinding]

end Clause

namespace Converter

open AnnotationUse

variable (converter : Converter Q)

/-- The annotations without those, at every depth, that the converter does not support. -/
def supported (annotations : List AnnotationUse) : List AnnotationUse :=
  retain converter.vocabulary (fun use => converter.supports use) annotations

/-- What is read off the supported annotations is what is read off all of them and taken where
it is supported. -/
theorem filterMap_document_supported {α : Type} (read : AnnotationUse → Option α)
    (aggregates
      : ∀ use, converter.vocabulary.classify? use.name = some .aggregate
          → ∀ items, read (use.regroup items) = read use)
    (annotations : List AnnotationUse)
    : (document converter.vocabulary (converter.supported annotations)).filterMap read
      = ((document converter.vocabulary annotations).filter converter.supports).filterMap
          read := by
  rw [List.filterMap_filter]
  apply filterMap_document_retain
  · intro use aggregate items
    rw [aggregates use aggregate items, if_pos (supports_of_aggregate aggregate)]
  · intro use supported
    rw [if_pos supported]
  · intro use _ unsupported
    rw [if_neg unsupported]

theorem names_document_supported (annotations : List AnnotationUse)
    : (document converter.vocabulary (converter.supported annotations)).map AnnotationUse.name
      = ((document converter.vocabulary annotations).filter converter.supports).map
          AnnotationUse.name := by
  have names := converter.filterMap_document_supported (fun use => some use.name)
    (fun use _ items => congrArg some (regroup_name use items)) annotations
  simpa only [List.filterMap_eq_map'] using names

theorem leaves_supported (annotations : List AnnotationUse)
    : leaves converter.vocabulary (converter.supported annotations)
      = converter.supportedLeaves annotations := by
  have selected := converter.filterMap_document_supported
    (Option.guard (fun use => converter.vocabulary.classify? use.name ≠ some .aggregate))
    (fun use aggregate items => by simp [Option.guard, aggregate]) annotations
  rwa [List.filterMap_eq_filter, List.filter_comm] at selected

/-- A converter supports exactly the modifiers and the annotations from which the first pass takes
a contribution, though it be empty, or an error. When all others are left out, wherever they
stand, every supported annotation keeps its place in the document and every leaf its elements;
the conversion has the same result or fails with the same error. -/
theorem prefilter_exact
    : (∀ use,
          converter.supports use = true
          ↔ (converter.vocabulary.classify? use.name = some .extendsBound
              ∨ converter.vocabulary.classify? use.name = some .superBound)
            ∨ (Clause.contribution converter.hierarchy
                (Clause.ofUse converter.vocabulary use)).outcome ≠ .ok none)
      ∧ ∀ annotations,
          (document converter.vocabulary (converter.supported annotations)).map
              AnnotationUse.name
            = ((document converter.vocabulary annotations).filter converter.supports).map
                AnnotationUse.name
          ∧ leaves converter.vocabulary (converter.supported annotations)
            = converter.supportedLeaves annotations
          ∧ (converter.convert (converter.supported annotations)).outcome
            = (converter.convert annotations).outcome := by
  constructor
  · intro use
    rw [supports_iff, Clause.outcome_contribution_ne_iff]
  · intro annotations
    refine ⟨names_document_supported converter annotations, leaves_supported converter annotations,
      ?_⟩
    apply outcome_convert_amend
    · intro use supported
      rw [if_pos supported]
    · intro use unsupported item member
      simp [unsupported] at member

/-- An unknown annotation is left out beside an aggregate and inside it. The qualifier in the
aggregate stays and is converted. -/
example
    : (let hierarchy : Hierarchy Taint := GroundLattice.tainting.hierarchy
       let converter : Converter Taint := ⟨⟨"q"⟩, hierarchy, .error⟩
       let unknown : AnnotationUse := ⟨"Nullable", []⟩
       let annotations : List AnnotationUse :=
         [unknown, ⟨"q.Multi", [("value", .annotations [unknown, ⟨"q.Tainted", []⟩])]⟩]
       (document converter.vocabulary (converter.supported annotations)).map AnnotationUse.name
           = ["q.Multi", "q.Tainted"]
         ∧ (converter.convert annotations).outcome
           = .ok (some (.singleton Vocabulary.mainParameter (.ground .tainted)))) := by
  decide +kernel

end Converter

end QualifierBindings
