import QualifierBindings.Proofs.Annotation.Amendment
import QualifierBindings.Proofs.Conversion.Outcome

/-! The two policies for modifiers whose parameter nothing binds. For any rule of joining, the
lenient policy converts annotations as the strict one converts what is left of them without
such orphans. An orphan binds nothing itself, so leaving all of them out at once leaves the
bound parameters, and with them the notion of an orphan, as they are.
-/

namespace QualifierBindings

variable {Q : Type}

namespace AnnotationUse

/-- A modifier whose target is a string, or left at its default, and not among the bound
parameters. -/
def isOrphan (vocabulary : Vocabulary) (bound : String → Bool) (use : AnnotationUse) : Bool :=
  (use.modifier? vocabulary).isSome && use.target?.any (fun target => !bound target)

/-- The annotations without the modifiers, at every depth, whose target no leaf binds. -/
def withoutOrphans (vocabulary : Vocabulary) (annotations : List AnnotationUse)
    : List AnnotationUse :=
  retain vocabulary
    (fun use => use.isOrphan vocabulary (isBound vocabulary annotations) = false) annotations

variable {vocabulary : Vocabulary} {bound : String → Bool} {use : AnnotationUse}

theorem isOrphan_iff
    : use.isOrphan vocabulary bound = true
      ↔ ∃ kind target,
          use.modifier? vocabulary = some kind ∧ use.target? = some target
          ∧ bound target = false := by
  unfold isOrphan
  cases use.modifier? vocabulary <;> cases use.target? <;> simp

/-- The lenient policy refuses no modifier for want of a base. -/
theorem modifierFault?_warn_of_isOrphan (orphan : use.isOrphan vocabulary bound = true)
    : use.modifierFault? vocabulary .warn bound = none := by
  obtain ⟨kind, target, modifies, targeted, _⟩ := isOrphan_iff.mp orphan
  simp [modifierFault?, modifies, targeted]

/-- Modifiers with a base, and those with a malformed target, are treated alike by both
policies. -/
theorem modifierFault?_error_of_not_isOrphan (settled : use.isOrphan vocabulary bound = false)
    : use.modifierFault? vocabulary .error bound = use.modifierFault? vocabulary .warn bound := by
  cases modifies : use.modifier? vocabulary with
  | none => simp [modifierFault?, modifies]
  | some kind =>
      cases targeted : use.target? with
      | none => simp [modifierFault?, modifies, targeted]
      | some target =>
          have based : bound target = true := by
            simpa [isOrphan, modifies, targeted] using settled
          simp [modifierFault?, modifies, targeted, based]

/-- A parameter that no leaf binds has no binders, whatever is malformed. -/
theorem bindersAt_eq_nil_of_not_isBound {annotations : List AnnotationUse} {parameter : String}
    (unbound : isBound vocabulary annotations parameter = false)
    : bindersAt vocabulary parameter annotations = [] := by
  have nothing : bindingLeaves vocabulary parameter annotations = [] := by
    simpa [isBound] using unbound
  rw [← filterMap_bindingLeaves, nothing, List.filterMap_nil]

end AnnotationUse

namespace Converter

open AnnotationUse GroundLattice

theorem foldedRange_eq_none_of_not_isBound (converter : Converter Q)
    {annotations : List AnnotationUse} {parameter : String}
    (unbound : isBound converter.vocabulary annotations parameter = false)
    : converter.foldedRange parameter annotations = none := by
  have undefined : (converter.foldedRange parameter annotations).isSome = false := by
    rw [foldedRange, parameterFold, isSome_foldFrom, bindersAt_eq_nil_of_not_isBound unbound]
    rfl
  simpa using undefined

theorem foldedRange_withoutOrphans (converter : Converter Q) (parameter : String)
    (annotations : List AnnotationUse)
    : converter.foldedRange parameter (withoutOrphans converter.vocabulary annotations)
      = converter.foldedRange parameter annotations := by
  apply foldFrom_retain
  intro use orphan
  obtain ⟨kind, _, modifies, _⟩ := isOrphan_iff.mp (by simpa using orphan)
  exact binderAt?_of_modifier? modifies parameter

/-- A bound parameter keeps its modifiers. -/
theorem modifiersAt_withoutOrphans {vocabulary : Vocabulary} {annotations : List AnnotationUse}
    {parameter : String} (bound : isBound vocabulary annotations parameter = true)
    : modifiersAt vocabulary parameter (withoutOrphans vocabulary annotations)
      = modifiersAt vocabulary parameter annotations := by
  rw [modifiersAt_eq_filterMap_document, modifiersAt_eq_filterMap_document]
  apply filterMap_document_retain
  · exact fun _ =>
      read_regroup (fun _ => modifierAt?_of_aggregate) (fun _ => modifierAt?_of_aggregate)
  · exact fun _ _ => rfl
  · intro use _ orphan
    obtain ⟨_, target, _, targeted, unbound⟩ := isOrphan_iff.mp (by simpa using orphan)
    have other : use.target? ≠ some parameter := by
      rintro same
      obtain rfl := Option.some.inj (targeted.symm.trans same)
      rw [bound] at unbound
      contradiction
    exact if_neg other

/-- What the lenient policy makes of annotations is what the strict one makes of them without
their orphans. -/
theorem outcome_convert_warn (vocabulary : Vocabulary) (hierarchy : Hierarchy Q)
    (annotations : List AnnotationUse)
    : (convert { vocabulary, hierarchy, missingBase := .warn } annotations).outcome
      = (convert { vocabulary, hierarchy, missingBase := .error }
          (withoutOrphans vocabulary annotations)).outcome := by
  apply outcome_convert_eq
  · symm
    apply findSome?_document_retain
    · exact fun _ aggregate items => bindingFault?_regroup aggregate items
    · exact fun _ _ => rfl
    · intro use _ orphan
      obtain ⟨_, _, modifies, _⟩ := isOrphan_iff.mp (by simpa using orphan)
      exact bindingFault?_of_modifier? modifies
  · symm
    apply findSome?_document_retain
    · exact fun _ =>
        read_regroup (fun _ => modifierFault?_of_aggregate) (fun _ => modifierFault?_of_aggregate)
    · exact fun _ settled => modifierFault?_error_of_not_isOrphan settled
    · exact fun _ _ orphan => modifierFault?_warn_of_isOrphan (by simpa using orphan)
  · intro parameter
    rw [foldedRange_withoutOrphans { vocabulary, hierarchy, missingBase := .error }]
    cases bound : isBound vocabulary annotations parameter with
    | true =>
        rw [modifiersAt_withoutOrphans bound]
        rfl
    | false =>
        -- orphans are left out, but what they target has no range to open
        have lenient := foldedRange_eq_none_of_not_isBound
          { vocabulary, hierarchy, missingBase := .warn } bound
        have strict := foldedRange_eq_none_of_not_isBound
          { vocabulary, hierarchy, missingBase := .error } bound
        rw [lenient, strict, Option.map_none, Option.map_none]

/-- Under the strict policy a conversion that succeeds has met no orphan, so both policies
agree on it. -/
theorem outcome_convert_warn_of_error {vocabulary : Vocabulary} {hierarchy : Hierarchy Q}
    {annotations : List AnnotationUse} {result : Option (Bindings Q)}
    (converted
      : (convert { vocabulary, hierarchy, missingBase := .error } annotations).outcome
        = .ok result)
    : (convert { vocabulary, hierarchy, missingBase := .warn } annotations).outcome
      = .ok result := by
  obtain ⟨_, accepted⟩ := accepted_of_convert_eq_ok converted
  have refusals : ∀ use ∈ document vocabulary annotations,
      use.modifierFault? vocabulary .warn (isBound vocabulary annotations) = none := by
    intro use member
    cases orphan : use.isOrphan vocabulary (isBound vocabulary annotations) with
    | true => exact modifierFault?_warn_of_isOrphan orphan
    | false => rw [← modifierFault?_error_of_not_isOrphan orphan, accepted use member]
  rw [← converted]
  apply outcome_convert_eq
  · rfl
  · rw [List.findSome?_eq_none_iff.mpr refusals, List.findSome?_eq_none_iff.mpr accepted]
  · exact fun _ => rfl

/-- For any rule of joining, the lenient policy converts annotations exactly as the strict one
converts them without their orphans, errors included. It agrees with the strict one wherever
that succeeds, and both end with the error of the first pass when that fails. -/
theorem convert_warn_eq_convert_withoutOrphans (vocabulary : Vocabulary)
    (hierarchy : Hierarchy Q) (annotations : List AnnotationUse)
    : (convert { vocabulary, hierarchy, missingBase := .warn } annotations).outcome
        = (convert { vocabulary, hierarchy, missingBase := .error }
            (withoutOrphans vocabulary annotations)).outcome
      ∧ (∀ result,
          (convert { vocabulary, hierarchy, missingBase := .error } annotations).outcome
            = .ok result
          → (convert { vocabulary, hierarchy, missingBase := .warn } annotations).outcome
            = .ok result)
      ∧ ∀ error,
          (Clause.collect hierarchy .empty (Clause.ofUses vocabulary annotations)).outcome
            = .error error
          → ∀ missingBase,
              (convert { vocabulary, hierarchy, missingBase } annotations).outcome
                = .error error := by
  refine ⟨outcome_convert_warn vocabulary hierarchy annotations, ?_, ?_⟩
  · exact fun _ => outcome_convert_warn_of_error
  · intro error failed missingBase
    rw [outcome_convert]
    simp only [failed]
    rfl

/-- Orphans inside and outside an aggregate, around a modifier with a base. -/
def withOrphans : List AnnotationUse :=
  [⟨"q.Multi", [("value", .annotations
      [⟨"q.Extends", [("target", .text "Y")]⟩, ⟨"q.Super", [("target", .text "X")]⟩])]⟩,
    ⟨"q.Untainted", [("target", .text "X")]⟩, ⟨"q.Super", []⟩]

theorem convert_warn_eq_convert_withoutOrphans_nested
    : ∃ result,
        (convert { vocabulary := ⟨"q"⟩, hierarchy := tainting.hierarchy, missingBase := .error }
          (withoutOrphans ⟨"q"⟩ withOrphans)).outcome = .ok result
        ∧ rangeAt result "X" = some (Range.between .untainted .tainted)
        ∧ (convert { vocabulary := ⟨"q"⟩, hierarchy := tainting.hierarchy, missingBase := .warn }
            (withoutOrphans ⟨"q"⟩ withOrphans)).outcome = .ok result
        ∧ (convert { vocabulary := ⟨"q"⟩, hierarchy := tainting.hierarchy, missingBase := .warn }
            (⟨"q.Var", []⟩ :: withOrphans)).outcome
          = .error (.missingElement "q.Var" "value") := by
  have policies := convert_warn_eq_convert_withoutOrphans ⟨"q"⟩ tainting.hierarchy
  have pruned := (policies withOrphans).1.symm
  refine ⟨_, pruned, rfl, (policies _).2.1 _ pruned, (policies _).2.2 _ rfl .warn⟩

end Converter

end QualifierBindings
