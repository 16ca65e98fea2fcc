import QualifierBindings.Conversion.Converter
import QualifierBindings.Proofs.Conversion.Adjusted
import QualifierBindings.Proofs.Conversion.Collected

/-! How a whole conversion ends, from what the two passes do. All later statements about
conversions rest on the three outcomes given here: the error of the first malformed
annotation, the error of the first refused modifier, or bindings that are known at
every parameter.
-/

namespace QualifierBindings

variable {Q : Type}

namespace AnnotationUse

def isBound (vocabulary : Vocabulary) (annotations : List AnnotationUse) (parameter : String)
    : Bool :=
  !(bindingLeaves vocabulary parameter annotations).isEmpty

theorem isBound_iff {vocabulary : Vocabulary} {annotations : List AnnotationUse}
    {parameter : String}
    : isBound vocabulary annotations parameter = true
      ↔ ∃ use ∈ leaves vocabulary annotations,
          use.binds vocabulary = true ∧ use.target? = some parameter := by
  rw [isBound, Bool.not_eq_true', List.isEmpty_eq_false_iff_exists_mem]
  simp only [mem_bindingLeaves_iff]

/-- When nothing is malformed, every leaf that binds a parameter has a binder for it. -/
theorem isEmpty_bindersAt {vocabulary : Vocabulary} {annotations : List AnnotationUse}
    (sound : ∀ use ∈ document vocabulary annotations, use.bindingFault? vocabulary = none)
    (parameter : String)
    : (!(bindersAt vocabulary parameter annotations).isEmpty)
      = isBound vocabulary annotations parameter := by
  rw [isBound, ← filterMap_bindingLeaves]
  congr 1
  -- a binding leaf has a binder because it is sound
  cases held : bindingLeaves vocabulary parameter annotations with
  | nil => rfl
  | cons use rest =>
      have member : use ∈ bindingLeaves vocabulary parameter annotations := by simp [held]
      obtain ⟨leaf, binding, _⟩ := mem_bindingLeaves_iff.mp member
      obtain ⟨binder, read⟩ :=
        binder?_isSome_of_binds binding (sound use (mem_leaves_iff.mp leaf).1)
      simp [read]

end AnnotationUse

namespace Converter

open AnnotationUse

/-- The range of a parameter in the result of a conversion. -/
def rangeAt (result : Option (Bindings Q)) (parameter : String) : Option (Range Q) :=
  result.bind (fun bindings => bindings.get? parameter)

/-- The answer for the bindings that a conversion reaches: none when there are none. -/
def answer (bindings : Bindings Q) : Option (Bindings Q) :=
  if bindings.isEmpty then none else some bindings

@[simp] theorem rangeAt_answer (bindings : Bindings Q) (parameter : String)
    : rangeAt (answer bindings) parameter = bindings.get? parameter := by
  unfold answer
  cases empty : bindings.isEmpty with
  | true => simp [rangeAt, (NameMap.isEmpty_iff bindings).mp empty]
  | false => simp [rangeAt]

theorem answer_eq_none_iff (bindings : Bindings Q)
    : answer bindings = none ↔ ∀ parameter, bindings.get? parameter = none := by
  simp [answer, NameMap.isEmpty_iff]

theorem eq_of_answer_eq_some {reached bindings : Bindings Q}
    (answered : answer reached = some bindings)
    : reached = bindings := by
  unfold answer at answered
  split at answered
  · contradiction
  · exact Option.some.inj answered

/-- Bindings with some bound parameter are their own answer. -/
theorem answer_of_get?_eq_some {bindings : Bindings Q} {parameter : String} {range : Range Q}
    (bound : bindings.get? parameter = some range)
    : answer bindings = some bindings := by
  cases answered : answer bindings with
  | none =>
      rw [(answer_eq_none_iff bindings).mp answered parameter] at bound
      contradiction
  | some others => rw [eq_of_answer_eq_some answered]

/-- The fold of the ranges that annotations give a parameter under a converter. -/
def foldedRange (converter : Converter Q) (parameter : String)
    (annotations : List AnnotationUse) : Option (Range Q) :=
  parameterFold (Range.pointwise converter.hierarchy.join)
    (Binder.range converter.hierarchy.toGroundLattice) converter.vocabulary parameter annotations

/-- When nothing is malformed, the parameters with a range are the bound ones. -/
theorem isSome_foldedRange (converter : Converter Q) {annotations : List AnnotationUse}
    (sound
      : ∀ use ∈ document converter.vocabulary annotations,
          use.bindingFault? converter.vocabulary = none)
    (parameter : String)
    : (converter.foldedRange parameter annotations).isSome
      = isBound converter.vocabulary annotations parameter := by
  rw [foldedRange, parameterFold, isSome_foldFrom, isEmpty_bindersAt sound]
  simp

theorem outcome_convert (converter : Converter Q) (annotations : List AnnotationUse)
    : (converter.convert annotations).outcome
      = (Clause.collect converter.hierarchy .empty
          (Clause.ofUses converter.vocabulary annotations)).outcome.bind (fun collected =>
            (Clause.adjustAll converter.hierarchy.toGroundLattice converter.missingBase collected
              (Clause.ofUses converter.vocabulary annotations)).outcome.map (fun _ =>
                answer (Clause.adjustAll converter.hierarchy.toGroundLattice
                  converter.missingBase collected
                  (Clause.ofUses converter.vocabulary annotations)).bindings)) := by
  rw [convert, Report.outcome_bind]
  congr 1
  funext collected
  simp only [Report.outcome_bind, adjusted, clauses]
  cases (Clause.adjustAll converter.hierarchy.toGroundLattice converter.missingBase collected
    (Clause.ofUses converter.vocabulary annotations)).outcome <;> rfl

/-- The first malformed annotation decides, whatever the modifiers are. -/
theorem outcome_convert_of_bindingFault (converter : Converter Q)
    (annotations : List AnnotationUse) {error : ConversionError}
    (fault
      : (document converter.vocabulary annotations).findSome?
          (bindingFault? converter.vocabulary) = some error)
    : (converter.convert annotations).outcome = .error error := by
  rw [outcome_convert, Clause.outcome_collect_of_fault _ _ _ _ fault]
  rfl

theorem collected_of_sound (converter : Converter Q) (annotations : List AnnotationUse)
    (sound
      : ∀ use ∈ document converter.vocabulary annotations,
          use.bindingFault? converter.vocabulary = none)
    : ∃ collected,
        (Clause.collect converter.hierarchy .empty
          (Clause.ofUses converter.vocabulary annotations)).outcome = .ok collected
        ∧ (∀ parameter,
            collected.get? parameter = converter.foldedRange parameter annotations)
        ∧ (fun parameter => (collected.get? parameter).isSome)
          = isBound converter.vocabulary annotations := by
  obtain ⟨collected, ended, folded⟩ :=
    Clause.outcome_collect_of_sound converter.hierarchy converter.vocabulary annotations .empty
      sound
  refine ⟨collected, ended, folded, ?_⟩
  funext parameter
  rw [folded]
  exact isSome_foldedRange converter sound parameter

/-- When nothing is malformed, the first refused modifier decides. -/
theorem outcome_convert_of_modifierFault (converter : Converter Q)
    (annotations : List AnnotationUse) {error : ConversionError}
    (sound
      : ∀ use ∈ document converter.vocabulary annotations,
          use.bindingFault? converter.vocabulary = none)
    (fault
      : (document converter.vocabulary annotations).findSome?
          (modifierFault? converter.vocabulary converter.missingBase
            (isBound converter.vocabulary annotations)) = some error)
    : (converter.convert annotations).outcome = .error error := by
  obtain ⟨collected, ended, _, bound⟩ := collected_of_sound converter annotations sound
  rw [← bound] at fault
  rw [outcome_convert, ended]
  simp only [Except.bind]
  rw [Clause.outcome_adjustAll_of_fault _ _ _ _ _ sound fault]
  rfl

/-- When nothing is malformed and no modifier is refused, each parameter ends with the
fold of its ranges, its bounds opened as its modifiers say. -/
theorem outcome_convert_of_accepted (converter : Converter Q)
    (annotations : List AnnotationUse)
    (sound
      : ∀ use ∈ document converter.vocabulary annotations,
          use.bindingFault? converter.vocabulary = none)
    (accepted
      : ∀ use ∈ document converter.vocabulary annotations,
          use.modifierFault? converter.vocabulary converter.missingBase
            (isBound converter.vocabulary annotations) = none)
    : ∃ bindings,
        (converter.convert annotations).outcome = .ok (answer bindings)
        ∧ ∀ parameter,
            bindings.get? parameter
              = (converter.foldedRange parameter annotations).map
                  (Modifier.applyAll converter.hierarchy.toGroundLattice
                    (modifiersAt converter.vocabulary parameter annotations)) := by
  obtain ⟨collected, ended, folded, bound⟩ := collected_of_sound converter annotations sound
  rw [← bound] at accepted
  have opens := Clause.opens_adjustAll_of_accepted converter.hierarchy.toGroundLattice
    converter.missingBase converter.vocabulary annotations collected sound accepted
  obtain ⟨processed, adjusted⟩ := opens.ended
  -- what is opened are the bounds of the fold that the first pass has left
  refine ⟨_, ?_, fun parameter => by rw [opens.opened, folded]⟩
  rw [outcome_convert, ended]
  simp only [Except.bind, adjusted, Except.map]

/-- A conversion that succeeds has met no malformed annotation and refused no modifier. -/
theorem accepted_of_convert_eq_ok {converter : Converter Q} {annotations : List AnnotationUse}
    {result : Option (Bindings Q)}
    (converted : (converter.convert annotations).outcome = .ok result)
    : (∀ use ∈ document converter.vocabulary annotations,
          use.bindingFault? converter.vocabulary = none)
      ∧ ∀ use ∈ document converter.vocabulary annotations,
          use.modifierFault? converter.vocabulary converter.missingBase
            (isBound converter.vocabulary annotations) = none := by
  have sound : (document converter.vocabulary annotations).findSome?
      (bindingFault? converter.vocabulary) = none := by
    cases fault
      : (document converter.vocabulary annotations).findSome?
          (bindingFault? converter.vocabulary) with
    | none => rfl
    | some error =>
        rw [outcome_convert_of_bindingFault converter annotations fault] at converted
        contradiction
  refine ⟨List.findSome?_eq_none_iff.mp sound, List.findSome?_eq_none_iff.mp ?_⟩
  cases fault
    : (document converter.vocabulary annotations).findSome?
        (modifierFault? converter.vocabulary converter.missingBase
          (isBound converter.vocabulary annotations)) with
  | none => rfl
  | some error =>
      rw [outcome_convert_of_modifierFault converter annotations
        (List.findSome?_eq_none_iff.mp sound) fault] at converted
      contradiction

/-- What is known of the result of a conversion that succeeds. -/
theorem answer_of_convert_eq_ok {converter : Converter Q} {annotations : List AnnotationUse}
    {result : Option (Bindings Q)}
    (converted : (converter.convert annotations).outcome = .ok result)
    : ∃ bindings,
        result = answer bindings
        ∧ ∀ parameter,
            bindings.get? parameter
              = (converter.foldedRange parameter annotations).map
                  (Modifier.applyAll converter.hierarchy.toGroundLattice
                    (modifiersAt converter.vocabulary parameter annotations)) := by
  obtain ⟨sound, accepted⟩ := accepted_of_convert_eq_ok converted
  obtain ⟨bindings, ended, known⟩ := outcome_convert_of_accepted converter annotations sound
    accepted
  rw [ended] at converted
  exact ⟨bindings, (Except.ok.inj converted).symm, known⟩

theorem answer_eq_map {R : Type} {reached : Bindings Q} {others : Bindings R}
    {f : Bindings Q → Bindings R} (same : f reached = others)
    (kept : (f reached).isEmpty = reached.isEmpty)
    : answer others = (answer reached).map f := by
  subst same
  unfold answer
  rw [kept]
  cases reached.isEmpty <;> rfl

/-- Two conversions whose first malformed annotations and first refused modifiers correspond,
and whose parameters have corresponding ranges, correspond in their outcomes. -/
theorem outcome_convert_correspond {R : Type} {left : Converter Q} {right : Converter R}
    {f : Bindings Q → Bindings R} {e : ConversionError → ConversionError}
    {before after : List AnnotationUse}
    (faults
      : (document right.vocabulary after).findSome? (bindingFault? right.vocabulary)
        = ((document left.vocabulary before).findSome? (bindingFault? left.vocabulary)).map e)
    (refusals
      : (∀ use ∈ document left.vocabulary before, use.bindingFault? left.vocabulary = none)
        → (∀ use ∈ document right.vocabulary after, use.bindingFault? right.vocabulary = none)
        → (document right.vocabulary after).findSome?
              (modifierFault? right.vocabulary right.missingBase (isBound right.vocabulary after))
          = ((document left.vocabulary before).findSome?
              (modifierFault? left.vocabulary left.missingBase
                (isBound left.vocabulary before))).map e)
    (kept : ∀ bindings, (f bindings).isEmpty = bindings.isEmpty)
    (ranges
      : ∀ bindings,
          (∀ parameter,
            bindings.get? parameter
              = (left.foldedRange parameter before).map
                  (Modifier.applyAll left.hierarchy.toGroundLattice
                    (modifiersAt left.vocabulary parameter before)))
          → ∀ parameter,
              (f bindings).get? parameter
                = (right.foldedRange parameter after).map
                    (Modifier.applyAll right.hierarchy.toGroundLattice
                      (modifiersAt right.vocabulary parameter after)))
    : (right.convert after).outcome
      = ((left.convert before).outcome.mapError e).map (Option.map f) := by
  cases fault
    : (document left.vocabulary before).findSome? (bindingFault? left.vocabulary) with
  | some error =>
      rw [fault] at faults
      rw [outcome_convert_of_bindingFault left before fault,
        outcome_convert_of_bindingFault right after faults]
      rfl
  | none =>
      rw [fault] at faults
      have soundLeft := List.findSome?_eq_none_iff.mp fault
      have soundRight := List.findSome?_eq_none_iff.mp faults
      have refused := refusals soundLeft soundRight
      cases refusal
        : (document left.vocabulary before).findSome?
            (modifierFault? left.vocabulary left.missingBase
              (isBound left.vocabulary before)) with
      | some error =>
          rw [refusal] at refused
          rw [outcome_convert_of_modifierFault left before soundLeft refusal,
            outcome_convert_of_modifierFault right after soundRight refused]
          rfl
      | none =>
          rw [refusal] at refused
          obtain ⟨bindings, ended, known⟩ := outcome_convert_of_accepted left before soundLeft
            (List.findSome?_eq_none_iff.mp refusal)
          obtain ⟨others, endedRight, knownRight⟩ := outcome_convert_of_accepted right after
            soundRight (List.findSome?_eq_none_iff.mp refused)
          have equal : f bindings = others := by
            apply NameMap.ext_get?
            intro parameter
            rw [ranges bindings known, knownRight]
          rw [ended, endedRight, answer_eq_map equal (kept bindings)]
          rfl

/-- Conversions that give the same range to every parameter end alike. -/
theorem outcome_convert_eq {left right : Converter Q} {before after : List AnnotationUse}
    (faults
      : (document left.vocabulary before).findSome? (bindingFault? left.vocabulary)
        = (document right.vocabulary after).findSome? (bindingFault? right.vocabulary))
    (refusals
      : (document left.vocabulary before).findSome?
            (modifierFault? left.vocabulary left.missingBase (isBound left.vocabulary before))
        = (document right.vocabulary after).findSome?
            (modifierFault? right.vocabulary right.missingBase
              (isBound left.vocabulary before)))
    (ranges
      : ∀ parameter,
          (left.foldedRange parameter before).map
              (Modifier.applyAll left.hierarchy.toGroundLattice
                (modifiersAt left.vocabulary parameter before))
            = (right.foldedRange parameter after).map
                (Modifier.applyAll right.hierarchy.toGroundLattice
                  (modifiersAt right.vocabulary parameter after)))
    : (left.convert before).outcome = (right.convert after).outcome := by
  have same : (right.convert after).outcome
      = ((left.convert before).outcome.mapError id).map (Option.map id) := by
    apply outcome_convert_correspond
    · rw [Option.map_id_fun, id, faults]
    · intro soundLeft soundRight
      -- the bound parameters are those that have a range
      have bound : isBound right.vocabulary after = isBound left.vocabulary before := by
        funext parameter
        have defined := congrArg Option.isSome (ranges parameter)
        rw [Option.isSome_map, Option.isSome_map, isSome_foldedRange left soundLeft,
          isSome_foldedRange right soundRight] at defined
        exact defined.symm
      rw [Option.map_id_fun, id, refusals, bound]
    · exact fun _ => rfl
    · intro bindings known parameter
      rw [id, known, ranges]
  rw [same]
  cases (left.convert before).outcome with
  | error error => rfl
  | ok result => cases result <;> rfl

/-- Two lists that are malformed alike, are refused the same modifiers, and give every
parameter the same range are converted alike, errors included. -/
theorem outcome_convert_congr {converter : Converter Q} {left right : List AnnotationUse}
    (faults
      : (document converter.vocabulary left).findSome? (bindingFault? converter.vocabulary)
        = (document converter.vocabulary right).findSome? (bindingFault? converter.vocabulary))
    (refusals
      : ∀ bound,
          (document converter.vocabulary left).findSome?
              (modifierFault? converter.vocabulary converter.missingBase bound)
            = (document converter.vocabulary right).findSome?
                (modifierFault? converter.vocabulary converter.missingBase bound))
    (ranges
      : ∀ parameter,
          (converter.foldedRange parameter left).map
              (Modifier.applyAll converter.hierarchy.toGroundLattice
                (modifiersAt converter.vocabulary parameter left))
            = (converter.foldedRange parameter right).map
                (Modifier.applyAll converter.hierarchy.toGroundLattice
                  (modifiersAt converter.vocabulary parameter right)))
    : (converter.convert left).outcome = (converter.convert right).outcome :=
  outcome_convert_eq faults (refusals _) ranges

end Converter

end QualifierBindings
