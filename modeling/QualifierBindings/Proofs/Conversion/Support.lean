import QualifierBindings.Proofs.Annotation.Amendment
import QualifierBindings.Proofs.Conversion.Outcome

/-! What a converter supports. An annotation that it does not support is silent: it neither
binds nor modifies a parameter and is never malformed, whatever its elements are. So
unsupported annotations may be replaced by other unsupported ones at every depth.
-/

namespace QualifierBindings

variable {Q : Type}

namespace Converter

open AnnotationUse

/-- Supported are the modifiers, the aggregates and the annotations that bind parameters. -/
theorem supports_iff {converter : Converter Q} {use : AnnotationUse}
    : converter.supports use = true
      ↔ (converter.vocabulary.classify? use.name = some .extendsBound
          ∨ converter.vocabulary.classify? use.name = some .superBound)
        ∨ converter.vocabulary.classify? use.name = some .aggregate
        ∨ use.binds converter.vocabulary = true := by
  unfold supports binds
  cases converter.vocabulary.classify? use.name with
  | none => simp
  | some marker => cases marker <;> simp [Marker.isBinding]

/-- Binding annotations are supported. -/
theorem supports_of_binds {converter : Converter Q} {use : AnnotationUse}
    (binding : use.binds converter.vocabulary = true)
    : converter.supports use = true :=
  supports_iff.mpr (.inr (.inr binding))

/-- Modifiers are supported. -/
theorem supports_of_modifier? {converter : Converter Q} {use : AnnotationUse}
    {modifier : Modifier} (modifies : use.modifier? converter.vocabulary = some modifier)
    : converter.supports use = true := by
  have found := modifier?_eq_some_iff.mp modifies
  cases modifier with
  | extendsBound => exact supports_iff.mpr (.inl (.inl found))
  | superBound => exact supports_iff.mpr (.inl (.inr found))

/-- Aggregates are supported. -/
theorem supports_of_aggregate {converter : Converter Q} {use : AnnotationUse}
    (aggregate : converter.vocabulary.classify? use.name = some .aggregate)
    : converter.supports use = true :=
  supports_iff.mpr (.inr (.inl aggregate))

/-- An unsupported annotation is never malformed. -/
theorem bindingFault?_of_not_supports {converter : Converter Q} {use : AnnotationUse}
    (unsupported : converter.supports use = false)
    : use.bindingFault? converter.vocabulary = none := by
  unfold supports at unsupported
  unfold bindingFault?
  cases found : converter.vocabulary.classify? use.name with
  | none => rfl
  | some marker => cases marker <;> simp [found] at unsupported ⊢

/-- What is not supported binds nothing. -/
theorem binder?_of_not_supports {converter : Converter Q} {use : AnnotationUse}
    (unsupported : converter.supports use = false)
    : use.binder? converter.vocabulary = none := by
  cases read : use.binder? converter.vocabulary with
  | none => rfl
  | some binder =>
      rw [supports_of_binds (binds_of_binder?_eq_some read)] at unsupported
      contradiction

/-- What is not supported opens nothing. -/
theorem modifier?_of_not_supports {converter : Converter Q} {use : AnnotationUse}
    (unsupported : converter.supports use = false)
    : use.modifier? converter.vocabulary = none := by
  cases modifies : use.modifier? converter.vocabulary with
  | none => rfl
  | some modifier =>
      rw [supports_of_modifier? modifies] at unsupported
      contradiction

/-- What is not supported is no aggregate. -/
theorem not_aggregate_of_not_supports {converter : Converter Q} {use : AnnotationUse}
    (unsupported : converter.supports use = false)
    : converter.vocabulary.classify? use.name ≠ some .aggregate := by
  intro aggregate
  rw [supports_of_aggregate aggregate] at unsupported
  contradiction

/-- What is silent on unsupported annotations does not see them replaced. -/
theorem filterMap_replaced {α : Type} {converter : Converter Q}
    {replace : AnnotationUse → List AnnotationUse} {read : AnnotationUse → Option α}
    (kept : ∀ use, converter.supports use = true → replace use = [use])
    (exchanged
      : ∀ use, converter.supports use = false
          → ∀ item ∈ replace use, converter.supports item = false)
    (silent : ∀ use, converter.supports use = false → read use = none)
    {use : AnnotationUse}
    (leaf : converter.vocabulary.classify? use.name ≠ some .aggregate)
    : (document converter.vocabulary (replace use)).filterMap read = (read use).toList := by
  cases supported : converter.supports use with
  | true =>
      rw [kept use supported, document_eq_self (by simpa using leaf), List.filterMap_cons,
        List.filterMap_nil]
      cases read use <;> rfl
  | false =>
      -- the replacements are leaves in which nothing is found either
      have others := exchanged use supported
      have leaves : ∀ item ∈ replace use,
          converter.vocabulary.classify? item.name ≠ some .aggregate :=
        fun item member => not_aggregate_of_not_supports (others item member)
      rw [document_eq_self leaves, silent use supported, Option.toList_none,
        List.filterMap_eq_nil_iff]
      exact fun item member => silent item (others item member)

/-- Replacing unsupported annotations by unsupported ones, at every depth, changes nothing
about a conversion. -/
theorem outcome_convert_amend (converter : Converter Q)
    {replace : AnnotationUse → List AnnotationUse}
    (kept : ∀ use, converter.supports use = true → replace use = [use])
    (exchanged
      : ∀ use, converter.supports use = false
          → ∀ item ∈ replace use, converter.supports item = false)
    (annotations : List AnnotationUse)
    : (converter.convert (amend converter.vocabulary replace annotations)).outcome
      = (converter.convert annotations).outcome := by
  apply outcome_convert_congr
  · apply findSome?_document_amend
    · intro use _ aggregate items
      exact bindingFault?_regroup aggregate items
    · intro use _ leaf
      exact filterMap_replaced kept exchanged (fun _ => bindingFault?_of_not_supports) leaf
  · intro bound
    apply findSome?_document_amend
    · intro use _
      exact read_regroup (fun _ => modifierFault?_of_aggregate)
        (fun _ => modifierFault?_of_aggregate)
    · intro use _ leaf
      apply filterMap_replaced kept exchanged _ leaf
      intro other unsupported
      simp only [modifierFault?, modifier?_of_not_supports unsupported]
  · intro parameter
    have folded : converter.foldedRange parameter (amend converter.vocabulary replace annotations)
        = converter.foldedRange parameter annotations := by
      apply foldFrom_amend
      intro use folded leaf
      cases supported : converter.supports use with
      | true => rw [kept use supported]
      | false =>
          have others := exchanged use supported
          rw [foldFrom_of_silent, foldFrom_of_silent]
          · simpa using leaf
          · simp [binderAt?, binder?_of_not_supports supported]
          · exact fun item member => not_aggregate_of_not_supports (others item member)
          · intro item member
            simp [binderAt?, binder?_of_not_supports (others item member)]
    have modifiers
        : modifiersAt converter.vocabulary parameter
              (amend converter.vocabulary replace annotations)
          = modifiersAt converter.vocabulary parameter annotations := by
      rw [modifiersAt_eq_filterMap_document, modifiersAt_eq_filterMap_document]
      apply filterMap_document_amend
      · intro use _
        exact read_regroup (fun _ => modifierAt?_of_aggregate)
          (fun _ => modifierAt?_of_aggregate)
      · intro use _ leaf
        apply filterMap_replaced kept exchanged _ leaf
        intro other unsupported
        simp only [modifierAt?, modifier?_of_not_supports unsupported, ite_self]
    rw [folded, modifiers]

end Converter

end QualifierBindings
