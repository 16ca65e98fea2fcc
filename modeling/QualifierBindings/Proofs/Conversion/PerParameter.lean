import QualifierBindings.Proofs.Annotation.Amendment
import QualifierBindings.Proofs.Conversion.Outcome

/-! Conversions parameter by parameter, for any rule of joining. The range of a parameter is
the fold of what is said about it along the annotation tree, with the bounds opened that a
modifier names. So it does not depend on what is said about other parameters, neither bound
depends on the other one, and an aggregate around the whole list is not seen.
-/

namespace QualifierBindings

variable {Q : Type}

namespace AnnotationUse

/-- The annotations without the leaves that target other parameters, at every depth. -/
def onlyTargeting (vocabulary : Vocabulary) (parameter : String)
    (annotations : List AnnotationUse) : List AnnotationUse :=
  amend vocabulary (fun use => if use.target? = some parameter then [use] else []) annotations

variable {vocabulary : Vocabulary} {parameter : String}

/-- Keeping the annotations of one parameter is an instance of leaving leaves out. -/
theorem onlyTargeting_eq_retain (annotations : List AnnotationUse)
    : onlyTargeting vocabulary parameter annotations
      = retain vocabulary (fun use => use.target? = some parameter) annotations := rfl

/-- The binders of a parameter are all kept. -/
theorem bindersAt_onlyTargeting (annotations : List AnnotationUse)
    : bindersAt vocabulary parameter (onlyTargeting vocabulary parameter annotations)
      = bindersAt vocabulary parameter annotations := by
  rw [bindersAt_eq_filterMap_document, bindersAt_eq_filterMap_document, onlyTargeting_eq_retain]
  apply filterMap_document_retain
  · exact fun _ =>
      read_regroup (fun _ => binderAt?_of_aggregate) (fun _ => binderAt?_of_aggregate)
  · exact fun _ _ => rfl
  · exact fun _ _ other => if_neg other

/-- The modifiers of a parameter are all kept. -/
theorem modifiersAt_onlyTargeting (annotations : List AnnotationUse)
    : modifiersAt vocabulary parameter (onlyTargeting vocabulary parameter annotations)
      = modifiersAt vocabulary parameter annotations := by
  rw [modifiersAt_eq_filterMap_document, modifiersAt_eq_filterMap_document,
    onlyTargeting_eq_retain]
  apply filterMap_document_retain
  · exact fun _ =>
      read_regroup (fun _ => modifierAt?_of_aggregate) (fun _ => modifierAt?_of_aggregate)
  · exact fun _ _ => rfl
  · exact fun _ _ other => if_neg other

/-- Whether a modifier is refused depends on its own target alone. -/
theorem modifierFault?_congr {missingBase : MissingBase} {bound others : String → Bool}
    {use : AnnotationUse} (targeted : use.target? = some parameter)
    (same : bound parameter = others parameter)
    : use.modifierFault? vocabulary missingBase bound
      = use.modifierFault? vocabulary missingBase others := by
  unfold modifierFault?
  rw [targeted]
  simp only [same]

end AnnotationUse

namespace Converter

open AnnotationUse

/-- Its range is folded from what targets it alone. -/
theorem foldedRange_onlyTargeting (converter : Converter Q) (parameter : String)
    (annotations : List AnnotationUse)
    : converter.foldedRange parameter
          (onlyTargeting converter.vocabulary parameter annotations)
      = converter.foldedRange parameter annotations :=
  foldFrom_retain (fun _ other => if_neg other) none annotations

/-- When a conversion succeeds, so does that of the annotations of one parameter alone, and
it gives the parameter the same range. -/
theorem rangeAt_onlyTargeting {converter : Converter Q} {annotations : List AnnotationUse}
    {result : Option (Bindings Q)}
    (converted : (converter.convert annotations).outcome = .ok result) (parameter : String)
    : ∃ own,
        (converter.convert
            (onlyTargeting converter.vocabulary parameter annotations)).outcome = .ok own
        ∧ rangeAt own parameter = rangeAt result parameter := by
  obtain ⟨sound, accepted⟩ := accepted_of_convert_eq_ok converted
  obtain ⟨bindings, rfl, known⟩ := answer_of_convert_eq_ok converted
  have soundOwn
      : ∀ use ∈ document converter.vocabulary
          (onlyTargeting converter.vocabulary parameter annotations),
          use.bindingFault? converter.vocabulary = none := by
    -- no fault is found along the document, so none along a part of it
    rw [← List.filterMap_eq_nil_iff] at sound ⊢
    rw [← sound]
    apply filterMap_document_retain
    · exact fun use aggregate items => bindingFault?_regroup aggregate items
    · exact fun _ _ => rfl
    · exact fun use member _ => List.filterMap_eq_nil_iff.mp sound use member
  have bound
      : isBound converter.vocabulary
            (onlyTargeting converter.vocabulary parameter annotations) parameter
        = isBound converter.vocabulary annotations parameter := by
    rw [← isEmpty_bindersAt soundOwn, ← isEmpty_bindersAt sound, bindersAt_onlyTargeting]
  have acceptedOwn
      : ∀ use ∈ document converter.vocabulary
          (onlyTargeting converter.vocabulary parameter annotations),
          use.modifierFault? converter.vocabulary converter.missingBase
            (isBound converter.vocabulary
              (onlyTargeting converter.vocabulary parameter annotations)) = none := by
    -- a modifier that is left targets the parameter, which is bound in both lists or in none
    have refused := List.filterMap_eq_nil_iff.mpr accepted
    rw [← List.filterMap_eq_nil_iff, ← refused]
    apply filterMap_document_retain
    · exact fun _ =>
        read_regroup (fun _ => modifierFault?_of_aggregate) (fun _ => modifierFault?_of_aggregate)
    · exact fun use targeted => modifierFault?_congr targeted bound
    · exact fun use member _ => accepted use member
  obtain ⟨own, ended, knownOwn⟩ := outcome_convert_of_accepted converter _ soundOwn acceptedOwn
  refine ⟨answer own, ended, ?_⟩
  rw [rangeAt_answer, rangeAt_answer, known, knownOwn, foldedRange_onlyTargeting,
    modifiersAt_onlyTargeting]

/-- An aggregate around a whole list is not seen, not even by the errors. -/
theorem outcome_convert_of_aggregates (converter : Converter Q) {container : AnnotationUse}
    {annotations : List AnnotationUse}
    (holds : container.Aggregates converter.vocabulary annotations)
    : (converter.convert [container]).outcome = (converter.convert annotations).outcome := by
  have wrapped : document converter.vocabulary [container]
      = container :: document converter.vocabulary annotations := by
    rw [document_cons, holds.contents_eq, document_nil, List.append_nil]
  have sound : container.bindingFault? converter.vocabulary = none := by
    simp [bindingFault?, holds.1, holds.2]
  have noModifier := modifier?_of_aggregate holds.1
  have noBinder := binder?_of_aggregate holds.1
  apply outcome_convert_congr
  · rw [wrapped, List.findSome?_cons, sound]
  · intro bound
    rw [wrapped, List.findSome?_cons]
    simp only [modifierFault?, noModifier]
  · intro parameter
    have folded : converter.foldedRange parameter [container]
        = converter.foldedRange parameter annotations := by
      rw [foldedRange, parameterFold, foldFrom_cons, holds.contents_eq]
      simp [binderAt?, noBinder, foldedRange, parameterFold]
    have modifiers : modifiersAt converter.vocabulary parameter [container]
        = modifiersAt converter.vocabulary parameter annotations := by
      rw [modifiersAt_eq_filterMap_document, modifiersAt_eq_filterMap_document, wrapped,
        List.filterMap_cons]
      simp [modifierAt?, noModifier]
    rw [folded, modifiers]

/-- For any rule of joining, a conversion that succeeds binds a parameter exactly when the
fold of what is said about the parameter is defined, and to that fold, with the bounds opened
that its modifiers name. Each bound is folded by itself, the parameter's own annotations
suffice, and an aggregate around the whole list changes nothing. -/
theorem convert_eq_parameterFold (converter : Converter Q) (annotations : List AnnotationUse)
    : (∀ container : AnnotationUse,
          container.Aggregates converter.vocabulary annotations
          → (converter.convert [container]).outcome = (converter.convert annotations).outcome)
      ∧ ∀ result, (converter.convert annotations).outcome = .ok result → ∀ parameter,
          rangeAt result parameter
              = (converter.foldedRange parameter annotations).map (fun folded =>
                  { lower :=
                      if isTargetedBy converter.vocabulary .extendsBound parameter annotations
                      then .ground converter.hierarchy.bottom
                      else folded.lower,
                    upper :=
                      if isTargetedBy converter.vocabulary .superBound parameter annotations
                      then .ground converter.hierarchy.top
                      else folded.upper })
          ∧ (converter.foldedRange parameter annotations).map Range.lower
            = parameterFold converter.hierarchy.join
                (fun binder => (binder.range converter.hierarchy.toGroundLattice).lower)
                converter.vocabulary parameter annotations
          ∧ (converter.foldedRange parameter annotations).map Range.upper
            = parameterFold converter.hierarchy.join
                (fun binder => (binder.range converter.hierarchy.toGroundLattice).upper)
                converter.vocabulary parameter annotations
          ∧ ∃ own,
              (converter.convert
                  (onlyTargeting converter.vocabulary parameter annotations)).outcome = .ok own
              ∧ rangeAt own parameter = rangeAt result parameter := by
  refine ⟨fun container => outcome_convert_of_aggregates converter, ?_⟩
  intro result converted parameter
  refine ⟨?_, ?_, ?_, rangeAt_onlyTargeting converted parameter⟩
  · obtain ⟨bindings, rfl, known⟩ := answer_of_convert_eq_ok converted
    rw [rangeAt_answer, known]
    congr 1
    funext folded
    rw [Modifier.applyAll_eq]
    simp only [mem_modifiersAt_iff_isTargetedBy, Modifier.marker]
  · exact map_foldFrom Range.lower (fun _ _ => rfl) none annotations
  · exact map_foldFrom Range.upper (fun _ _ => rfl) none annotations

/-- Two variables for one parameter, the second one inside an aggregate, another parameter's
binding between them, and a modifier. -/
def twoVariables : List AnnotationUse :=
  [⟨"q.Var", [("target", .text "X"), ("value", .text "v")]⟩,
    ⟨"q.Multi", [("value", .annotations
      [⟨"q.Tainted", []⟩, ⟨"q.Var", [("target", .text "X"), ("value", .text "w")]⟩])]⟩,
    ⟨"q.Extends", [("target", .text "X")]⟩]

theorem convert_eq_parameterFold_twoVariables
    : ∃ result,
        (convert
            { vocabulary := ⟨"q"⟩, hierarchy := .keepSecond .tainting, missingBase := .warn }
            [⟨"q.Multi", [("value", .annotations twoVariables)]⟩]).outcome = .ok result
        ∧ rangeAt result "X"
          = some ⟨.ground .untainted, .named "w" .untainted .tainted⟩ := by
  have folds := convert_eq_parameterFold
    { vocabulary := ⟨"q"⟩, hierarchy := .keepSecond .tainting, missingBase := .warn }
    twoVariables
  refine ⟨_, folds.1 _ ⟨by decide, rfl⟩, ?_⟩
  rw [(folds.2 _ rfl "X").1]
  decide +kernel

end Converter

end QualifierBindings
