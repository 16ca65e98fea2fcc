import QualifierBindings.Proofs.Conversion.Support

/-! Which error a conversion returns. The first pass over the whole document comes before
the second one, so a malformed binding or aggregate hides every refused modifier, also those
before it; within each pass the first annotation in document order decides. Annotations that
a converter does not support are never looked into.
-/

namespace QualifierBindings

variable {Q : Type}

namespace Converter

open AnnotationUse GroundLattice

/-- The error of the first malformed annotation in document order or, without one, of the
first refused modifier. -/
def firstError (converter : Converter Q) (annotations : List AnnotationUse)
    : Option ConversionError :=
  ((document converter.vocabulary annotations).findSome?
      (bindingFault? converter.vocabulary)).or
    ((document converter.vocabulary annotations).findSome?
      (modifierFault? converter.vocabulary converter.missingBase
        (isBound converter.vocabulary annotations)))

/-- The annotations with other elements given to those that the converter does not support,
at every depth. -/
def refillUnsupported (converter : Converter Q)
    (elements : AnnotationUse → List (String × ElementValue AnnotationUse))
    (annotations : List AnnotationUse) : List AnnotationUse :=
  amend converter.vocabulary
    (fun use =>
      if converter.supports use then [use] else [{ use with elements := elements use }])
    annotations

/-- A conversion fails with the first error. -/
theorem outcome_convert_of_firstError (converter : Converter Q)
    (annotations : List AnnotationUse) {error : ConversionError}
    (first : converter.firstError annotations = some error)
    : (converter.convert annotations).outcome = .error error := by
  rcases Option.or_eq_some_iff.mp first with fault | ⟨sound, fault⟩
  · exact outcome_convert_of_bindingFault converter annotations fault
  · have everySound := List.findSome?_eq_none_iff.mp sound
    exact outcome_convert_of_modifierFault converter annotations everySound fault

/-- Without any error a conversion succeeds. -/
theorem outcome_convert_of_no_error (converter : Converter Q) (annotations : List AnnotationUse)
    (none : converter.firstError annotations = none)
    : ∃ result, (converter.convert annotations).outcome = .ok result := by
  obtain ⟨sound, accepted⟩ := Option.or_eq_none_iff.mp none
  obtain ⟨bindings, ended, _⟩ := outcome_convert_of_accepted converter annotations
    (List.findSome?_eq_none_iff.mp sound) (List.findSome?_eq_none_iff.mp accepted)
  exact ⟨answer bindings, ended⟩

/-- What unsupported annotations hold does not count. -/
theorem outcome_convert_refillUnsupported (converter : Converter Q)
    (elements : AnnotationUse → List (String × ElementValue AnnotationUse))
    (annotations : List AnnotationUse)
    : (converter.convert (converter.refillUnsupported elements annotations)).outcome
      = (converter.convert annotations).outcome := by
  apply outcome_convert_amend
  · intro use supported
    rw [if_pos supported]
  -- support is decided by the name, which is kept
  · intro use unsupported item member
    rw [unsupported, if_neg Bool.false_ne_true, List.mem_singleton] at member
    subst member
    exact unsupported

/-- A conversion returns exactly the first error, and a result exactly when there is none.
What stands in the elements of unsupported annotations makes no difference to either. -/
theorem outcome_convert_eq_error_iff (converter : Converter Q) (annotations : List AnnotationUse)
    : (∀ error,
          (converter.convert annotations).outcome = .error error
          ↔ converter.firstError annotations = some error)
      ∧ ((∃ result, (converter.convert annotations).outcome = .ok result)
          ↔ converter.firstError annotations = none)
      ∧ ∀ elements,
          (converter.convert (converter.refillUnsupported elements annotations)).outcome
            = (converter.convert annotations).outcome := by
  refine ⟨?_, ?_, fun elements => outcome_convert_refillUnsupported converter elements _⟩
  · intro error
    constructor
    · intro ended
      cases first : converter.firstError annotations with
      | none =>
          obtain ⟨result, succeeded⟩ := outcome_convert_of_no_error converter annotations first
          rw [ended] at succeeded
          contradiction
      | some other =>
          have failed := outcome_convert_of_firstError converter annotations first
          rw [ended] at failed
          exact congrArg some (Except.error.inj failed).symm
    · exact outcome_convert_of_firstError converter annotations
  · constructor
    · rintro ⟨result, ended⟩
      cases first : converter.firstError annotations with
      | none => rfl
      | some error =>
          rw [outcome_convert_of_firstError converter annotations first] at ended
          contradiction
    · exact outcome_convert_of_no_error converter annotations

/-- The nameless variable is reported, not the modifier without a base before it. -/
example
    : (convert { vocabulary := ⟨"q"⟩, hierarchy := tainting.hierarchy, missingBase := .error }
        [⟨"q.Extends", []⟩, ⟨"q.Multi", [("value", .annotations [⟨"q.Var", []⟩])]⟩]).outcome
      = .error (.missingElement "q.Var" "value") := by
  rfl

end Converter

end QualifierBindings
