import QualifierBindings.Proofs.Conversion.Adjusted
import QualifierBindings.Proofs.Conversion.Contributions
import QualifierBindings.Taint

/-! What the second pass leaves of the bindings it is given, at whatever annotation it ends. No
parameter is lost or made up, and a bound that is changed has been opened by a modifier visited
before the stop.
-/

namespace QualifierBindings

variable {Q : Type}

namespace AnnotationUse

theorem contents_ne_nil_iff {vocabulary : Vocabulary} {use : AnnotationUse}
    : use.contents vocabulary ≠ [] ↔ ∃ items, use.Aggregates vocabulary items ∧ items ≠ [] := by
  constructor
  · intro filled
    have aggregate : vocabulary.classify? use.name = some .aggregate := by
      by_contra leaf
      exact filled (contents_of_not_aggregate leaf)
    rw [contents_of_aggregate aggregate] at filled
    cases held : use.nested? "value" with
    | none => simp [held] at filled
    | some items =>
        exact ⟨items, ⟨aggregate, nested?_eq_some_iff.mp held⟩, by simpa [held] using filled⟩
  · rintro ⟨items, holds, filled⟩
    rwa [holds.contents_eq]

/-- A bound counts as opened when a visited leaf names it. -/
theorem mem_openedAt_iff {vocabulary : Vocabulary} {missingBase : MissingBase}
    {bound : String → Bool} {parameter : String} {annotations : List AnnotationUse}
    {modifier : Modifier}
    : modifier ∈ openedAt vocabulary missingBase bound parameter annotations
      ↔ ∃ leaf ∈ visited vocabulary missingBase bound annotations,
          leaf.modifier? vocabulary = some modifier ∧ leaf.target? = some parameter := by
  simp only [openedAt, List.mem_filterMap, modifierAt?_eq_some_iff, and_comm]

end AnnotationUse

namespace Clause

open AnnotationUse

/-- An annotation that is adjusted without an error counts as processed when it holds other ones or
is a modifier of a bound parameter. -/
theorem processed_iff_of_adjust {L : GroundLattice Q} {missingBase : MissingBase}
    {bindings : Bindings Q} {vocabulary : Vocabulary} {use : AnnotationUse} {processed : Bool}
    (ended : (adjust L missingBase bindings (ofUse vocabulary use)).outcome = .ok processed)
    : processed = true
      ↔ use.contents vocabulary ≠ []
        ∨ ∃ kind target,
            use.modifier? vocabulary = some kind ∧ use.target? = some target
            ∧ bindings.contains target = true := by
  have read := reading vocabulary use
  generalize ofUse vocabulary use = clause at read ended
  cases read with
  | unrelated closed _ _ noModifier | binding closed _ _ _ noModifier
  | brokenBinding _ closed _ noModifier =>
      rw [adjust] at ended
      obtain rfl := Except.ok.inj ended
      simp [closed, noModifier]
  | @modifier kind target closed _ _ targeted modifies =>
      rw [adjust] at ended
      unfold Adjustment.ofModifier at ended
      cases found : bindings.get? target with
      | some range =>
          simp only [found] at ended
          obtain rfl := Except.ok.inj ended
          simp [targeted, modifies, NameMap.contains, found]
      | none =>
          cases missingBase with
          | error => simp [found, Adjustment.unchanged] at ended
          | warn =>
              simp only [found] at ended
              obtain rfl := Except.ok.inj ended
              simp [closed, targeted, modifies, NameMap.contains, found]
  | group _ _ noModifier =>
      rw [adjust, Adjustment.answering] at ended
      cases inside
        : (adjustAll L missingBase bindings
            (ofUses vocabulary (use.contents vocabulary))).outcome with
      | error error => simp [inside, Except.map] at ended
      | ok _ =>
          simp only [inside, Except.map] at ended
          obtain rfl := Except.ok.inj ended
          simp [noModifier, ofUses_eq_map]
  | brokenModifier _ _ _ _ _ _ | brokenGroup _ _ _ =>
      rw [adjust] at ended
      contradiction

/-- An annotation at which the pass does not stop is answered with whether it was processed. -/
theorem outcome_adjust_eq_ok_iff {L : GroundLattice Q} {missingBase : MissingBase}
    {bindings : Bindings Q} {vocabulary : Vocabulary} {use : AnnotationUse}
    {modifiers : String → List Modifier} {stop : Option ConversionError}
    (opens
      : Adjustment.Opens L bindings modifiers stop
          (adjust L missingBase bindings (ofUse vocabulary use)))
    (processed : Bool)
    : (adjust L missingBase bindings (ofUse vocabulary use)).outcome = .ok processed
      ↔ stop = none
        ∧ (processed = true
          ↔ use.contents vocabulary ≠ []
            ∨ ∃ kind target,
                use.modifier? vocabulary = some kind ∧ use.target? = some target
                ∧ bindings.contains target = true) := by
  constructor
  · intro ended
    refine ⟨?_, processed_iff_of_adjust ended⟩
    cases stop with
    | none => rfl
    | some error =>
        have failed := (opens.failed error).mpr rfl
        rw [ended] at failed
        contradiction
  · rintro ⟨rfl, answers⟩
    obtain ⟨answered, ended⟩ := opens.ended
    have same : answered = processed := by
      rw [Bool.eq_iff_iff, processed_iff_of_adjust ended, answers]
    rw [← same]
    exact ended

/-- The second pass over one annotation with all that it holds keeps the set of bound parameters,
whether it ends well or stops. A lower bound becomes the bottom exactly when an extending modifier
of its parameter was visited before the stop, an upper bound the top when a super modifier was, and
all other bounds stay. The stop is the first refused modifier or malformed aggregate in document
order; without one the annotation counts as processed exactly when it is an aggregate that holds
something or a modifier of a bound parameter. -/
theorem adjust_frame (L : GroundLattice Q) (missingBase : MissingBase) (vocabulary : Vocabulary)
    (use : AnnotationUse) (bindings : Bindings Q)
    : let adjustment := adjust L missingBase bindings (ofUse vocabulary use)
      let visited := visited vocabulary missingBase bindings.contains [use]
      let stop := stop? vocabulary missingBase bindings.contains [use]
      adjustment.bindings.nameSet = bindings.nameSet
      ∧ (∀ parameter,
          adjustment.bindings.get? parameter
            = (bindings.get? parameter).map (fun range =>
                { lower :=
                    if ∃ leaf ∈ visited,
                        leaf.modifier? vocabulary = some .extendsBound
                        ∧ leaf.target? = some parameter
                    then .ground L.bottom else range.lower,
                  upper :=
                    if ∃ leaf ∈ visited,
                        leaf.modifier? vocabulary = some .superBound
                        ∧ leaf.target? = some parameter
                    then .ground L.top else range.upper }))
      ∧ (∀ error, adjustment.outcome = .error error ↔ stop = some error)
      ∧ ∀ processed,
          adjustment.outcome = .ok processed
          ↔ stop = none
            ∧ (processed = true
              ↔ (∃ items, use.Aggregates vocabulary items ∧ items ≠ [])
                ∨ ∃ kind target,
                    use.modifier? vocabulary = some kind ∧ use.target? = some target
                    ∧ bindings.contains target = true) := by
  intro adjustment visited stop
  have opens : Adjustment.Opens L bindings
      (fun parameter => openedAt vocabulary missingBase bindings.contains parameter [use]) stop
      adjustment :=
    opens_adjust L missingBase bindings vocabulary use rfl
      (opens_adjustAll L missingBase vocabulary _ bindings rfl)
  refine ⟨?_, ?_, opens.failed, ?_⟩
  · ext parameter
    rw [NameMap.mem_nameSet, NameMap.mem_nameSet, opens.opened, Option.isSome_map]
  · intro parameter
    rw [opens.opened]
    congr 1
    funext range
    simp only [Modifier.applyAll_eq, mem_openedAt_iff, visited]
  · intro processed
    rw [← contents_ne_nil_iff]
    exact outcome_adjust_eq_ok_iff opens processed

/-- A group that stops at its second modifier leaves behind what its first one has opened. -/
example
    : (let missing : AnnotationUse := ⟨"q.Super", [("target", .text "Missing")]⟩
       let items : List AnnotationUse := [⟨"q.Extends", []⟩, missing, ⟨"q.Super", []⟩]
       let before : Bindings Taint := .singleton "Main" (.exact (.ground .tainted))
       let adjustment := adjust .tainting .error before
         (ofUse ⟨"q"⟩ ⟨"q.Multi", [("value", .annotations items)]⟩)
       adjustment.outcome = .error (.modifierWithoutBase .superBound "Missing")
       ∧ adjustment.bindings.get? "Main"
         = some { lower := .ground .untainted, upper := .ground .tainted }) := by
  decide +kernel

end Clause

end QualifierBindings
