import Mathlib.Data.List.TakeWhile
import QualifierBindings.Conversion.Adjustment
import QualifierBindings.Proofs.Conversion.ClauseReading

/-! The second pass over annotations. It keeps the bound parameters, stops at the first refused
modifier or malformed aggregate in document order, and has by then opened at each parameter
exactly the bounds that the modifiers before name.
-/

namespace QualifierBindings

variable {Q : Type}

namespace Modifier

/-- A range with the bounds opened that several modifiers name. -/
def applyAll (L : GroundLattice Q) (modifiers : List Modifier) (range : Range Q) : Range Q :=
  modifiers.foldl (fun range modifier => modifier.applyTo L range) range

@[simp] theorem applyAll_nil (L : GroundLattice Q)
    : applyAll L [] = (id : Range Q → Range Q) := rfl

/-- The first modifier is applied first. -/
theorem applyAll_cons (L : GroundLattice Q) (modifier : Modifier) (modifiers : List Modifier)
    (range : Range Q)
    : applyAll L (modifier :: modifiers) range
      = applyAll L modifiers (modifier.applyTo L range) := rfl

/-- Modifiers are applied one list after the other. -/
theorem applyAll_append (L : GroundLattice Q) (left right : List Modifier) (range : Range Q)
    : applyAll L (left ++ right) range = applyAll L right (applyAll L left range) :=
  List.foldl_append

/-- The lower bound is opened by one extending modifier, and by no other one. -/
theorem lower_applyAll (L : GroundLattice Q) (modifiers : List Modifier) (range : Range Q)
    : (applyAll L modifiers range).lower
      = if .extendsBound ∈ modifiers then .ground L.bottom else range.lower := by
  induction modifiers generalizing range with
  | nil => simp
  | cons modifier rest ih =>
      rw [applyAll_cons, ih]
      cases modifier <;> by_cases later : Modifier.extendsBound ∈ rest <;>
        simp [applyTo, Range.withLower, Range.withUpper, later]

/-- The upper bound is opened by one super modifier, and by no other one. -/
theorem upper_applyAll (L : GroundLattice Q) (modifiers : List Modifier) (range : Range Q)
    : (applyAll L modifiers range).upper
      = if .superBound ∈ modifiers then .ground L.top else range.upper := by
  induction modifiers generalizing range with
  | nil => simp
  | cons modifier rest ih =>
      rw [applyAll_cons, ih]
      cases modifier <;> by_cases later : Modifier.superBound ∈ rest <;>
        simp [applyTo, Range.withLower, Range.withUpper, later]

/-- Only what occurs among the modifiers counts for the range they leave. -/
theorem applyAll_eq (L : GroundLattice Q) (modifiers : List Modifier) (range : Range Q)
    : applyAll L modifiers range
      = { lower := if .extendsBound ∈ modifiers then .ground L.bottom else range.lower,
          upper := if .superBound ∈ modifiers then .ground L.top else range.upper } := by
  rw [← lower_applyAll, ← upper_applyAll]

/-- The order of modifiers does not count. -/
theorem applyAll_eq_of_perm (L : GroundLattice Q) {left right : List Modifier}
    (order : left.Perm right)
    : applyAll L left = applyAll L right := by
  funext range
  simp only [applyAll_eq, order.mem_iff]

end Modifier

namespace AnnotationUse

/-- The error at which the second pass stops: that of an aggregate without an array of annotations
or of a refused modifier. -/
def adjustingFault? (vocabulary : Vocabulary) (missingBase : MissingBase) (bound : String → Bool)
    (use : AnnotationUse) : Option ConversionError :=
  if vocabulary.classify? use.name = some .aggregate then use.bindingFault? vocabulary
  else use.modifierFault? vocabulary missingBase bound

/-- The error of the first annotation in document order at which the second pass stops. -/
def stop? (vocabulary : Vocabulary) (missingBase : MissingBase) (bound : String → Bool)
    (annotations : List AnnotationUse) : Option ConversionError :=
  (document vocabulary annotations).findSome? (adjustingFault? vocabulary missingBase bound)

/-- The annotations in document order that the second pass comes to before it stops. -/
def visited (vocabulary : Vocabulary) (missingBase : MissingBase) (bound : String → Bool)
    (annotations : List AnnotationUse) : List AnnotationUse :=
  (document vocabulary annotations).takeWhile
    (fun use => (use.adjustingFault? vocabulary missingBase bound).isNone)

/-- The bounds of the given parameter that are opened before the second pass stops. -/
def openedAt (vocabulary : Vocabulary) (missingBase : MissingBase) (bound : String → Bool)
    (parameter : String) (annotations : List AnnotationUse) : List Modifier :=
  (visited vocabulary missingBase bound annotations).filterMap (modifierAt? vocabulary parameter)

section Stop

variable {vocabulary : Vocabulary} {missingBase : MissingBase} {bound : String → Bool}

/-- The pass stops at an aggregate that is malformed. -/
theorem adjustingFault?_of_aggregate {use : AnnotationUse}
    (aggregate : vocabulary.classify? use.name = some .aggregate)
    : use.adjustingFault? vocabulary missingBase bound = use.bindingFault? vocabulary :=
  if_pos aggregate

/-- It stops at a leaf that is a refused modifier. -/
theorem adjustingFault?_of_leaf {use : AnnotationUse}
    (leaf : vocabulary.classify? use.name ≠ some .aggregate)
    : use.adjustingFault? vocabulary missingBase bound
      = use.modifierFault? vocabulary missingBase bound :=
  if_neg leaf

/-- The pass goes on at what is neither a malformed aggregate nor a modifier. -/
theorem adjustingFault?_eq_none {use : AnnotationUse}
    (held
      : vocabulary.classify? use.name = some .aggregate → use.bindingFault? vocabulary = none)
    (noModifier : use.modifier? vocabulary = none)
    : use.adjustingFault? vocabulary missingBase bound = none := by
  by_cases aggregate : vocabulary.classify? use.name = some .aggregate
  · rw [adjustingFault?_of_aggregate aggregate, held aggregate]
  · rw [adjustingFault?_of_leaf aggregate, modifierFault?, noModifier]

/-- Where nothing is malformed the second pass stops at refused modifiers alone. -/
theorem adjustingFault?_of_sound {use : AnnotationUse}
    (sound : use.bindingFault? vocabulary = none)
    : use.adjustingFault? vocabulary missingBase bound
      = use.modifierFault? vocabulary missingBase bound := by
  by_cases aggregate : vocabulary.classify? use.name = some .aggregate
  · rw [adjustingFault?_of_aggregate aggregate, sound, modifierFault?_of_aggregate aggregate]
  · exact adjustingFault?_of_leaf aggregate

/-- Where nothing is malformed the first stop is the first refused modifier. -/
theorem stop?_of_sound {annotations : List AnnotationUse}
    (sound : ∀ use ∈ document vocabulary annotations, use.bindingFault? vocabulary = none)
    : stop? vocabulary missingBase bound annotations
      = (document vocabulary annotations).findSome?
          (modifierFault? vocabulary missingBase bound) := by
  rw [stop?]
  generalize document vocabulary annotations = document at sound
  induction document with
  | nil => rfl
  | cons use rest ih =>
      obtain ⟨own, later⟩ := List.forall_mem_cons.mp sound
      rw [List.findSome?_cons, List.findSome?_cons, adjustingFault?_of_sound own, ih later]

/-- Where nothing is malformed and no modifier refused the pass does not stop. -/
theorem stop?_eq_none {annotations : List AnnotationUse}
    (sound : ∀ use ∈ document vocabulary annotations, use.bindingFault? vocabulary = none)
    (accepted
      : ∀ use ∈ document vocabulary annotations,
          use.modifierFault? vocabulary missingBase bound = none)
    : stop? vocabulary missingBase bound annotations = none := by
  rw [stop?_of_sound sound, List.findSome?_eq_none_iff]
  exact accepted

/-- A pass that does not stop comes to all modifiers. -/
theorem openedAt_of_stop?_eq_none {annotations : List AnnotationUse}
    (goesOn : stop? vocabulary missingBase bound annotations = none) (parameter : String)
    : openedAt vocabulary missingBase bound parameter annotations
      = modifiersAt vocabulary parameter annotations := by
  have all
      : visited vocabulary missingBase bound annotations = document vocabulary annotations := by
    rw [visited, List.takeWhile_eq_self_iff]
    intro use member
    rw [List.findSome?_eq_none_iff.mp goesOn use member, Option.isNone_none]
  rw [openedAt, all, modifiersAt_eq_filterMap_document]

/-- Annotations after others are visited if the pass does not stop before. -/
theorem takeWhile_isNone_append {α β : Type} (fault : α → Option β) (left right : List α)
    : (left ++ right).takeWhile (fun item => (fault item).isNone)
      = left.takeWhile (fun item => (fault item).isNone)
        ++ if (left.findSome? fault).isNone
          then right.takeWhile (fun item => (fault item).isNone) else [] := by
  induction left with
  | nil => simp
  | cons item rest ih =>
      cases found : fault item with
      | none => simp [found, ih]
      | some error => simp [found]

/-- The pass stops at the rest only if it has not stopped before. -/
theorem stop?_cons (use : AnnotationUse) (rest : List AnnotationUse)
    : stop? vocabulary missingBase bound (use :: rest)
      = (stop? vocabulary missingBase bound [use]).or
          (stop? vocabulary missingBase bound rest) := by
  rw [← List.singleton_append, stop?, document_append, List.findSome?_append]
  rfl

/-- The rest opens bounds only if the pass comes to it. -/
theorem openedAt_cons (parameter : String) (use : AnnotationUse) (rest : List AnnotationUse)
    : openedAt vocabulary missingBase bound parameter (use :: rest)
      = openedAt vocabulary missingBase bound parameter [use]
        ++ if (stop? vocabulary missingBase bound [use]).isNone
          then openedAt vocabulary missingBase bound parameter rest else [] := by
  rw [← List.singleton_append, openedAt, visited, document_append, takeWhile_isNone_append,
    List.filterMap_append]
  congr 1
  rw [stop?]
  split <;> rfl

/-- One annotation stops the pass itself or by what it holds. -/
theorem stop?_singleton (use : AnnotationUse)
    : stop? vocabulary missingBase bound [use]
      = (use.adjustingFault? vocabulary missingBase bound).or
          (stop? vocabulary missingBase bound (use.contents vocabulary)) := by
  rw [stop?, document_cons, document_nil, List.append_nil, List.findSome?_cons]
  cases use.adjustingFault? vocabulary missingBase bound <;> rfl

/-- An annotation at which the pass goes on opens its own bound and those that its contents
open. -/
theorem openedAt_singleton_of_none {use : AnnotationUse}
    (goesOn : use.adjustingFault? vocabulary missingBase bound = none) (parameter : String)
    : openedAt vocabulary missingBase bound parameter [use]
      = (use.modifierAt? vocabulary parameter).toList
        ++ openedAt vocabulary missingBase bound parameter (use.contents vocabulary) := by
  rw [openedAt, visited, document_cons, document_nil, List.append_nil,
    List.takeWhile_cons_of_pos (by rw [goesOn, Option.isNone_none]), List.filterMap_cons]
  cases use.modifierAt? vocabulary parameter <;> rfl

/-- An annotation at which the pass stops opens nothing. -/
theorem openedAt_singleton_of_some {use : AnnotationUse} {error : ConversionError}
    (stops : use.adjustingFault? vocabulary missingBase bound = some error) (parameter : String)
    : openedAt vocabulary missingBase bound parameter [use] = [] := by
  rw [openedAt, visited, document_cons, List.takeWhile_cons_of_neg (by simp [stops]),
    List.filterMap_nil]

@[simp] theorem stop?_nil : stop? vocabulary missingBase bound [] = none := by
  rw [stop?, document_nil, List.findSome?_nil]

@[simp] theorem openedAt_nil (parameter : String)
    : openedAt vocabulary missingBase bound parameter [] = [] := by
  rw [openedAt, visited, document_nil, List.takeWhile_nil, List.filterMap_nil]

end Stop

end AnnotationUse

namespace Adjustment

/-- After an adjustment that ends well the next one decides. -/
theorem andThen_of_ok {first : Adjustment Q} {processed : Bool}
    (ended : first.outcome = .ok processed) (next : Bindings Q → Adjustment Q)
    : (first.andThen next).outcome = (next first.bindings).outcome
      ∧ (first.andThen next).bindings = (next first.bindings).bindings := by
  simp [andThen, ended]

/-- After an adjustment that stops there is no next one. -/
theorem andThen_of_error {first : Adjustment Q} {error : ConversionError}
    (ended : first.outcome = .error error) (next : Bindings Q → Adjustment Q)
    : first.andThen next = first := by
  simp [andThen, ended]

/-- An adjustment that opens, at each parameter, the given bounds, and ends with the given error
or, without one, well. -/
structure Opens (L : GroundLattice Q) (bindings : Bindings Q) (modifiers : String → List Modifier)
    (stop : Option ConversionError) (adjustment : Adjustment Q) : Prop where
  opened
    : ∀ parameter,
        adjustment.bindings.get? parameter
          = (bindings.get? parameter).map (Modifier.applyAll L (modifiers parameter))
  failed : ∀ error, adjustment.outcome = .error error ↔ stop = some error

section Opens

variable {L : GroundLattice Q} {bindings : Bindings Q} {modifiers : String → List Modifier}
  {stop : Option ConversionError} {adjustment : Adjustment Q}

/-- Opening bounds keeps what is bound. -/
theorem Opens.bound (opens : Opens L bindings modifiers stop adjustment)
    : (fun parameter => (adjustment.bindings.get? parameter).isSome)
      = fun parameter => (bindings.get? parameter).isSome := by
  funext parameter
  rw [opens.opened, Option.isSome_map]

/-- An adjustment that does not stop ends well. -/
theorem Opens.ended (opens : Opens L bindings modifiers none adjustment)
    : ∃ processed, adjustment.outcome = .ok processed := by
  cases outcome : adjustment.outcome with
  | ok processed => exact ⟨processed, rfl⟩
  | error error => cases (opens.failed error).mp outcome

/-- An adjustment that changes nothing opens nothing. -/
theorem opens_unchanged (L : GroundLattice Q) (bindings : Bindings Q) (processed : Bool)
    : Opens L bindings (fun _ => []) none (unchanged bindings (.ok processed)) where
  opened parameter := by
    simp [unchanged]
  failed error := by
    simp [unchanged]

/-- An adjustment that stops at once opens nothing. -/
theorem opens_of_error (L : GroundLattice Q) (bindings : Bindings Q) (error : ConversionError)
    : Opens L bindings (fun _ => []) (some error) (unchanged bindings (.error error)) where
  opened parameter := by
    simp [unchanged]
  failed other := by
    simp [unchanged]

/-- One adjustment after another opens what both open, unless the first one has stopped. -/
theorem Opens.andThen {later : String → List Modifier} {laterStop : Option ConversionError}
    {next : Bindings Q → Adjustment Q} (one : Opens L bindings modifiers stop adjustment)
    (two : Opens L adjustment.bindings later laterStop (next adjustment.bindings))
    : Opens L bindings
        (fun parameter => modifiers parameter ++ if stop.isNone then later parameter else [])
        (stop.or laterStop) (adjustment.andThen next) := by
  cases stop with
  | some error =>
      rw [andThen_of_error ((one.failed error).mpr rfl)]
      simpa using one
  | none =>
      obtain ⟨_, ended⟩ := one.ended
      obtain ⟨outcome, left⟩ := andThen_of_ok ended next
      refine ⟨?_, ?_⟩
      · intro parameter
        rw [left, two.opened, one.opened, Option.map_map]
        congr 1
        funext range
        exact (Modifier.applyAll_append L _ _ range).symm
      · rw [outcome]
        exact two.failed

/-- What an adjustment opens does not depend on its answer. -/
theorem Opens.answering (opens : Opens L bindings modifiers stop adjustment) (processed : Bool)
    : Opens L bindings modifiers stop (adjustment.answering processed) where
  opened := opens.opened
  failed error := by
    rw [← opens.failed, Adjustment.answering]
    cases adjustment.outcome <;> simp [Except.map]

end Opens

/-- A modifier that is not refused opens its bound of its target, if that is bound. -/
theorem opens_ofModifier {L : GroundLattice Q} {missingBase : MissingBase}
    {bindings : Bindings Q} {modifier : Modifier} {target : String}
    (accepted : ¬(missingBase = .error ∧ (bindings.get? target).isSome = false))
    : Opens L bindings (fun parameter => if target = parameter then [modifier] else []) none
        (ofModifier L missingBase bindings modifier target) := by
  unfold ofModifier
  cases found : bindings.get? target with
  | some range =>
      refine ⟨?_, by simp⟩
      intro parameter
      by_cases same : parameter = target
      · subst same
        simp [found, Modifier.applyAll]
      · simp [same, Ne.symm same]
  | none =>
      cases missingBase with
      | error => simp [found] at accepted
      | warn =>
          refine ⟨?_, by simp⟩
          intro parameter
          by_cases same : parameter = target
          · subst same
            simp [found]
          · simp [Ne.symm same]

/-- A refused modifier changes nothing. -/
theorem ofModifier_of_refused {L : GroundLattice Q} {missingBase : MissingBase}
    {bindings : Bindings Q} {modifier : Modifier} {target : String}
    (refused : missingBase = .error ∧ (bindings.get? target).isSome = false)
    : ofModifier L missingBase bindings modifier target
      = unchanged bindings (.error (.modifierWithoutBase modifier target)) := by
  obtain ⟨rfl, unbound⟩ := refused
  have absent : bindings.get? target = none := by simpa using unbound
  simp only [ofModifier, absent]

end Adjustment

namespace Clause

open AnnotationUse

/-- One annotation is adjusted by its own bound and those that its contents open, up to the first
error among them. -/
theorem opens_adjust (L : GroundLattice Q) (missingBase : MissingBase) (bindings : Bindings Q)
    (vocabulary : Vocabulary) (use : AnnotationUse) {bound : String → Bool}
    (known : (fun parameter => (bindings.get? parameter).isSome) = bound)
    (inner
      : Adjustment.Opens L bindings
          (fun parameter =>
            openedAt vocabulary missingBase bound parameter (use.contents vocabulary))
          (stop? vocabulary missingBase bound (use.contents vocabulary))
          (adjustAll L missingBase bindings (ofUses vocabulary (use.contents vocabulary))))
    : Adjustment.Opens L bindings
        (fun parameter => openedAt vocabulary missingBase bound parameter [use])
        (stop? vocabulary missingBase bound [use])
        (adjust L missingBase bindings (ofUse vocabulary use)) := by
  have read := reading vocabulary use
  generalize ofUse vocabulary use = clause at read
  cases read with
  | unrelated closed sound _ noModifier | binding closed sound _ _ noModifier =>
      have goesOn : use.adjustingFault? vocabulary missingBase bound = none :=
        adjustingFault?_eq_none (fun _ => sound) noModifier
      rw [adjust]
      simpa [stop?_singleton, openedAt_singleton_of_none, goesOn, closed, modifierAt?, noModifier]
        using Adjustment.opens_unchanged L bindings false
  | brokenBinding leaf closed _ noModifier =>
      have goesOn : use.adjustingFault? vocabulary missingBase bound = none :=
        adjustingFault?_eq_none (fun aggregate => absurd aggregate leaf) noModifier
      rw [adjust]
      simpa [stop?_singleton, openedAt_singleton_of_none, goesOn, closed, modifierAt?, noModifier]
        using Adjustment.opens_unchanged L bindings false
  | @modifier kind target closed sound _ targeted modifies =>
      have fault : use.adjustingFault? vocabulary missingBase bound
          = if missingBase = .error ∧ (bindings.get? target).isSome = false then
              some (.modifierWithoutBase kind target)
            else none := by
        simp only [adjustingFault?_of_sound sound, modifierFault?, modifies, targeted, ← known]
      rw [adjust]
      by_cases refused : missingBase = .error ∧ (bindings.get? target).isSome = false
      · rw [if_pos refused] at fault
        rw [Adjustment.ofModifier_of_refused refused]
        simpa [stop?_singleton, openedAt_singleton_of_some, fault]
          using Adjustment.opens_of_error L bindings _
      · rw [if_neg refused] at fault
        have own : ∀ parameter,
            (use.modifierAt? vocabulary parameter).toList
              = if target = parameter then [kind] else [] := by
          intro parameter
          by_cases same : target = parameter <;> simp [modifierAt?, targeted, modifies, same]
        simpa [stop?_singleton, openedAt_singleton_of_none, fault, closed, own]
          using Adjustment.opens_ofModifier refused
  | group sound _ noModifier =>
      have goesOn : use.adjustingFault? vocabulary missingBase bound = none :=
        adjustingFault?_eq_none (fun _ => sound) noModifier
      rw [adjust]
      simpa [stop?_singleton, openedAt_singleton_of_none, goesOn, modifierAt?, noModifier]
        using inner.answering _
  | @brokenModifier kind error closed sound _ untargeted modifies fault =>
      have stops : use.adjustingFault? vocabulary missingBase bound = some error := by
        simp only [adjustingFault?_of_sound sound, modifierFault?, modifies, untargeted, fault]
      rw [adjust]
      simpa [stop?_singleton, openedAt_singleton_of_some, stops]
        using Adjustment.opens_of_error L bindings error
  | @brokenGroup error aggregate fault _ =>
      have stops : use.adjustingFault? vocabulary missingBase bound = some error := by
        rw [adjustingFault?_of_aggregate aggregate, fault]
      rw [adjust]
      simpa [stop?_singleton, openedAt_singleton_of_some, stops]
        using Adjustment.opens_of_error L bindings error

/-- Whatever annotations are adjusted, and however that ends: each parameter has the bounds opened
that the modifiers before the stop name, and the stop is the first error in document order. -/
theorem opens_adjustAll (L : GroundLattice Q) (missingBase : MissingBase)
    (vocabulary : Vocabulary) (annotations : List AnnotationUse) (bindings : Bindings Q)
    {bound : String → Bool}
    (known : (fun parameter => (bindings.get? parameter).isSome) = bound)
    : Adjustment.Opens L bindings
        (fun parameter => openedAt vocabulary missingBase bound parameter annotations)
        (stop? vocabulary missingBase bound annotations)
        (adjustAll L missingBase bindings (ofUses vocabulary annotations)) := by
  induction annotations using documentInduction vocabulary generalizing bindings with
  | nil =>
      rw [ofUses, adjustAll]
      simpa using Adjustment.opens_unchanged L bindings false
  | cons use rest ihContents ihRest =>
      have first := opens_adjust L missingBase bindings vocabulary use known
        (ihContents bindings known)
      -- adjusting keeps what is bound, so the rest stops for the same reasons
      have second := ihRest (adjust L missingBase bindings (ofUse vocabulary use)).bindings
        (first.bound.trans known)
      rw [ofUses, adjustAll, stop?_cons, funext (openedAt_cons · use rest)]
      exact first.andThen second

/-- When nothing is malformed and no modifier is refused, the second pass opens at each
parameter the bounds that its modifiers name. -/
theorem opens_adjustAll_of_accepted (L : GroundLattice Q) (missingBase : MissingBase)
    (vocabulary : Vocabulary) (annotations : List AnnotationUse) (bindings : Bindings Q)
    (sound : ∀ use ∈ document vocabulary annotations, use.bindingFault? vocabulary = none)
    (accepted
      : ∀ use ∈ document vocabulary annotations,
          use.modifierFault? vocabulary missingBase
            (fun parameter => (bindings.get? parameter).isSome) = none)
    : Adjustment.Opens L bindings (fun parameter => modifiersAt vocabulary parameter annotations)
        none (adjustAll L missingBase bindings (ofUses vocabulary annotations)) := by
  have opens := opens_adjustAll L missingBase vocabulary annotations bindings rfl
  have goesOn := stop?_eq_none sound accepted
  rwa [goesOn, funext (openedAt_of_stop?_eq_none goesOn)] at opens

/-- When nothing is malformed, the first refused modifier in document order ends the
second pass. -/
theorem outcome_adjustAll_of_fault (L : GroundLattice Q) (missingBase : MissingBase)
    (vocabulary : Vocabulary) (annotations : List AnnotationUse) (bindings : Bindings Q)
    {error : ConversionError}
    (sound : ∀ use ∈ document vocabulary annotations, use.bindingFault? vocabulary = none)
    (fault
      : (document vocabulary annotations).findSome?
          (modifierFault? vocabulary missingBase
            (fun parameter => (bindings.get? parameter).isSome)) = some error)
    : (adjustAll L missingBase bindings (ofUses vocabulary annotations)).outcome
      = .error error := by
  have opens := opens_adjustAll L missingBase vocabulary annotations bindings rfl
  rw [stop?_of_sound sound] at opens
  exact (opens.failed error).mpr fault

end Clause

end QualifierBindings
