import Mathlib.Data.List.Forall2
import QualifierBindings.Proofs.Conversion.Adjusted

/-! What the second pass reports. Every modifier leaf is announced by one event, in document
order; and the bindings can be read back from the events, since a parameter has the range that
its last adjustment reports.
-/

namespace QualifierBindings

variable {Q : Type}

namespace Event

/-- Whether an event ends the report of a conversion. -/
def isConverted : Event Q → Bool
  | .converted _ _ => true
  | _ => false

/-- The range that an event reports a parameter to be adjusted to. -/
def adjustedRange? (parameter : String) : Event Q → Option (Range Q)
  | .adjusted _ target range => if target = parameter then some range else none
  | _ => none

/-- The range of a parameter as its last adjustment reports it. -/
def lastAdjusted? (parameter : String) (events : List (Event Q)) : Option (Range Q) :=
  (events.filterMap (adjustedRange? parameter)).getLast?

@[simp] theorem lastAdjusted?_nil (parameter : String)
    : lastAdjusted? parameter ([] : List (Event Q)) = none := rfl

/-- The last announcement of a parameter is one of the later ones, if there is any. -/
theorem lastAdjusted?_append (parameter : String) (earlier later : List (Event Q))
    : lastAdjusted? parameter (earlier ++ later)
      = (lastAdjusted? parameter later).or (lastAdjusted? parameter earlier) := by
  rw [lastAdjusted?, List.filterMap_append, List.getLast?_append]
  rfl

end Event

/-- An event announces a modifier: that it has opened its bound of a bound parameter, or
that it has been ignored for lack of one. -/
inductive Announces (vocabulary : Vocabulary) (bound : String → Bool) (use : AnnotationUse)
    : Event Q → Prop where
  | adjusted {kind : Modifier} {target : String} (range : Range Q)
    (modifies : use.modifier? vocabulary = some kind)
    (targeted : use.target? = some target)
    (based : bound target = true)
    : Announces vocabulary bound use (.adjusted kind target range)
  | ignored {kind : Modifier} {target : String}
    (modifies : use.modifier? vocabulary = some kind)
    (targeted : use.target? = some target)
    (baseless : bound target = false)
    : Announces vocabulary bound use (.ignored kind target)

namespace Adjustment

/-- An adjustment that leaves each parameter with the range it reports last, and does not
report the conversion to be over. -/
structure Reported (bindings : Bindings Q) (adjustment : Adjustment Q) : Prop where
  told
    : ∀ parameter,
        adjustment.bindings.get? parameter
          = (Event.lastAdjusted? parameter adjustment.events).or (bindings.get? parameter)
  underway : ∀ event ∈ adjustment.events, event.isConverted = false

/-- Where nothing is changed nothing needs to be told. -/
theorem reported_unchanged (bindings : Bindings Q) (outcome : Except ConversionError Bool)
    : Reported bindings (unchanged bindings outcome) where
  told parameter := by simp [unchanged]
  underway := by simp [unchanged]

/-- Two adjustments that tell of their changes tell of both, the later ones last. -/
theorem Reported.andThen {bindings : Bindings Q} {first : Adjustment Q}
    {next : Bindings Q → Adjustment Q} (one : Reported bindings first)
    (two : Reported first.bindings (next first.bindings))
    : Reported bindings (first.andThen next) := by
  cases ended : first.outcome with
  | error error =>
      rw [andThen_of_error ended]
      exact one
  | ok processed =>
      rw [Adjustment.andThen, ended]
      refine ⟨?_, ?_⟩
      · intro parameter
        simp only [two.told, one.told, Event.lastAdjusted?_append, Option.or_assoc]
      · exact List.forall_mem_append.mpr ⟨one.underway, two.underway⟩

/-- What is told does not depend on the answer. -/
theorem Reported.answering {bindings : Bindings Q} {adjustment : Adjustment Q}
    (reported : Reported bindings adjustment) (processed : Bool)
    : Reported bindings (adjustment.answering processed) :=
  ⟨reported.told, reported.underway⟩

/-- A modifier tells of the range that it leaves. -/
theorem reported_ofModifier (L : GroundLattice Q) (missingBase : MissingBase)
    (bindings : Bindings Q) (modifier : Modifier) (target : String)
    : Reported bindings (ofModifier L missingBase bindings modifier target) := by
  unfold ofModifier
  cases bindings.get? target with
  | some range =>
      refine ⟨?_, by simp [Event.isConverted]⟩
      intro parameter
      by_cases same : target = parameter
      · simp [Event.lastAdjusted?, Event.adjustedRange?, same]
      · simp [Event.lastAdjusted?, Event.adjustedRange?, same, Ne.symm same]
  | none =>
      cases missingBase with
      | error => exact reported_unchanged bindings _
      | warn => exact ⟨fun _ => rfl, by simp [Event.isConverted]⟩

end Adjustment

namespace Clause

open AnnotationUse

mutual

/-- Whatever a clause is and however it ends, the bindings it leaves are as reported. -/
theorem reported_adjust (L : GroundLattice Q) (missingBase : MissingBase)
    (bindings : Bindings Q) (clause : Clause)
    : Adjustment.Reported bindings (adjust L missingBase bindings clause) := by
  cases clause with
  | unrelated | binding _ _ | brokenBinding _ | brokenModifier _ _ | brokenGroup _ =>
      rw [adjust]
      exact Adjustment.reported_unchanged bindings _
  | modifier kind target =>
      rw [adjust]
      exact Adjustment.reported_ofModifier L missingBase bindings kind target
  | group clauses =>
      rw [adjust]
      exact (reported_adjustAll L missingBase bindings clauses).answering _

/-- The bindings that the second pass leaves are as reported, even when it fails. -/
theorem reported_adjustAll (L : GroundLattice Q) (missingBase : MissingBase)
    (bindings : Bindings Q) (clauses : List Clause)
    : Adjustment.Reported bindings (adjustAll L missingBase bindings clauses) := by
  cases clauses with
  | nil =>
      rw [adjustAll]
      exact Adjustment.reported_unchanged bindings _
  | cons clause rest =>
      rw [adjustAll]
      exact (reported_adjust L missingBase bindings clause).andThen
        (reported_adjustAll L missingBase _ rest)

end

/-- An accepted annotation is announced if it is a modifier, and so are its contents. -/
theorem announces_adjust (L : GroundLattice Q) (missingBase : MissingBase)
    (bindings : Bindings Q) (vocabulary : Vocabulary) (use : AnnotationUse)
    (sound : use.bindingFault? vocabulary = none)
    (accepted
      : use.modifierFault? vocabulary missingBase
          (fun parameter => (bindings.get? parameter).isSome) = none)
    (inner
      : List.Forall₂ (Announces vocabulary (fun parameter => (bindings.get? parameter).isSome))
          (modifierLeaves vocabulary (use.contents vocabulary))
          (adjustAll L missingBase bindings
            (ofUses vocabulary (use.contents vocabulary))).events)
    : List.Forall₂ (Announces vocabulary (fun parameter => (bindings.get? parameter).isSome))
        ([use].filter (fun use => (use.modifier? vocabulary).isSome)
          ++ modifierLeaves vocabulary (use.contents vocabulary))
        (adjust L missingBase bindings (ofUse vocabulary use)).events := by
  have read := reading vocabulary use
  generalize ofUse vocabulary use = clause at read
  cases read with
  | unrelated closed _ _ noModifier | binding closed _ _ _ noModifier =>
      rw [adjust]
      simp [closed, noModifier, modifierLeaves, Adjustment.unchanged]
  | @modifier kind target closed _ _ targeted modifies =>
      rw [adjust]
      unfold Adjustment.ofModifier
      simp only [closed, modifierLeaves, leaves_nil, List.filter_nil, List.append_nil,
        List.filter_cons, modifies, Option.isSome_some, if_true]
      cases found : bindings.get? target with
      | some range =>
          exact .cons (.adjusted _ modifies targeted (by simp [found])) .nil
      | none =>
          cases missingBase with
          | error => simp [modifierFault?, modifies, targeted, found] at accepted
          | warn => exact .cons (.ignored modifies targeted (by simp [found])) .nil
  | group _ _ noModifier =>
      rw [adjust]
      simpa [noModifier, Adjustment.answering] using inner
  | brokenBinding _ _ fault _ | brokenGroup _ fault _ =>
      rw [sound] at fault
      contradiction
  | brokenModifier _ _ _ untargeted modifies fault =>
      simp [modifierFault?, modifies, untargeted, fault] at accepted

/-- When nothing is malformed and no modifier is refused, the second pass announces the
modifier leaves one by one, in document order. -/
theorem announces_adjustAll (L : GroundLattice Q) (missingBase : MissingBase)
    (vocabulary : Vocabulary) (annotations : List AnnotationUse) (bindings : Bindings Q)
    (sound : ∀ use ∈ document vocabulary annotations, use.bindingFault? vocabulary = none)
    (accepted
      : ∀ use ∈ document vocabulary annotations,
          use.modifierFault? vocabulary missingBase
            (fun parameter => (bindings.get? parameter).isSome) = none)
    : List.Forall₂ (Announces vocabulary (fun parameter => (bindings.get? parameter).isSome))
        (modifierLeaves vocabulary annotations)
        (adjustAll L missingBase bindings (ofUses vocabulary annotations)).events := by
  induction annotations using documentInduction vocabulary generalizing bindings with
  | nil =>
      rw [ofUses, adjustAll]
      simp [modifierLeaves, Adjustment.unchanged]
  | cons use rest ihContents ihRest =>
      obtain ⟨soundUse, soundContents, soundRest⟩ := forall_mem_document_cons.mp sound
      obtain ⟨acceptedUse, acceptedContents, acceptedRest⟩ :=
        forall_mem_document_cons.mp accepted
      have own := announces_adjust L missingBase bindings vocabulary use soundUse acceptedUse
        (ihContents bindings soundContents acceptedContents)
      have opens := opens_adjust L missingBase bindings vocabulary use rfl
        (opens_adjustAll L missingBase vocabulary _ bindings rfl)
      rw [stop?_singleton, adjustingFault?_of_sound soundUse, acceptedUse,
        stop?_eq_none soundContents acceptedContents] at opens
      obtain ⟨processed, ended⟩ := opens.ended
      -- the same parameters are bound when the rest is adjusted
      rw [← opens.bound] at acceptedRest
      have later := ihRest _ soundRest acceptedRest
      rw [opens.bound] at later
      rw [ofUses, adjustAll, Adjustment.andThen, ended, modifierLeaves_cons]
      exact List.rel_append own later

end Clause

end QualifierBindings
