import QualifierBindings.Proofs.Annotation.Insertion
import QualifierBindings.Proofs.Conversion.Outcome

/-! Modifiers put in at any place of the annotations. One that targets a bound parameter opens
its bound of that parameter and leaves everything else as it is, for any rule of joining and
under both policies. By induction this holds of several ones, put in one after the other, so
their order, their repetition and their places do not count.
-/

namespace QualifierBindings

variable {Q : Type}

namespace AnnotationUse

/-- An annotation that opens one bound of a parameter. -/
structure Modifies (vocabulary : Vocabulary) (use : AnnotationUse) (kind : Modifier)
    (target : String) : Prop where
  modifier : use.modifier? vocabulary = some kind
  target : use.target? = some target

theorem modifies_iff {vocabulary : Vocabulary} {use : AnnotationUse} {kind : Modifier}
    {target : String}
    : use.Modifies vocabulary kind target ↔ use.modifierAt? vocabulary target = some kind := by
  rw [modifierAt?_eq_some_iff]
  exact ⟨fun modifies => ⟨modifies.target, modifies.modifier⟩,
    fun found => ⟨found.2, found.1⟩⟩

theorem Modifies.modifierAt?_eq {vocabulary : Vocabulary} {use : AnnotationUse}
    {kind : Modifier} {target : String} (modifies : use.Modifies vocabulary kind target)
    (parameter : String)
    : use.modifierAt? vocabulary parameter = if target = parameter then some kind else none := by
  simp [modifierAt?, modifies.target, modifies.modifier]

end AnnotationUse

namespace Converter

open AnnotationUse

variable {converter : Converter Q} {before after : List AnnotationUse}

section Step

variable {use : AnnotationUse} {kind : Modifier} {target : String}
  (modifies : use.Modifies converter.vocabulary kind target)
  (inserted : Inserted converter.vocabulary use before after)

include modifies inserted

/-- A modifier contributes nothing to the range of any parameter. -/
theorem foldedRange_inserted (parameter : String)
    : converter.foldedRange parameter after = converter.foldedRange parameter before :=
  inserted.foldFrom_eq (not_aggregate_of_modifier? modifies.modifier)
    (binderAt?_of_modifier? modifies.modifier parameter) none

/-- A modifier opens its bound of its target, after all that was opened before. -/
theorem openedRange_inserted (parameter : String)
    : (converter.foldedRange parameter after).map
          (Modifier.applyAll converter.hierarchy.toGroundLattice
            (modifiersAt converter.vocabulary parameter after))
      = ((converter.foldedRange parameter before).map
          (Modifier.applyAll converter.hierarchy.toGroundLattice
            (modifiersAt converter.vocabulary parameter before))).map
          (Modifier.applyAll converter.hierarchy.toGroundLattice
            (use.modifierAt? converter.vocabulary parameter).toList) := by
  have leaf := not_aggregate_of_modifier? modifies.modifier
  have modifiers := (inserted.modifiersAt_perm leaf parameter).trans List.perm_append_comm
  rw [foldedRange_inserted modifies inserted, Modifier.applyAll_eq_of_perm _ modifiers,
    Option.map_map]
  congr 1
  funext range
  exact Modifier.applyAll_append _ _ _ range

/-- What was sound and accepted stays so when the target of the modifier is bound. -/
theorem accepted_inserted
    (sound
      : ∀ item ∈ document converter.vocabulary before,
          item.bindingFault? converter.vocabulary = none)
    (accepted
      : ∀ item ∈ document converter.vocabulary before,
          item.modifierFault? converter.vocabulary converter.missingBase
            (isBound converter.vocabulary before) = none)
    (bound : isBound converter.vocabulary before target = true)
    : (∀ item ∈ document converter.vocabulary after,
          item.bindingFault? converter.vocabulary = none)
      ∧ ∀ item ∈ document converter.vocabulary after,
          item.modifierFault? converter.vocabulary converter.missingBase
            (isBound converter.vocabulary after) = none := by
  have leaf := not_aggregate_of_modifier? modifies.modifier
  have soundAfter
      : ∀ item ∈ document converter.vocabulary after,
          item.bindingFault? converter.vocabulary = none :=
    inserted.forall_read_eq_none leaf (fun _ => bindingFault?_regroup)
      (bindingFault?_of_modifier? modifies.modifier) sound
  have boundAfter
      : isBound converter.vocabulary after = isBound converter.vocabulary before := by
    funext parameter
    rw [← isSome_foldedRange converter soundAfter, ← isSome_foldedRange converter sound,
      foldedRange_inserted modifies inserted]
  have acceptedUse
      : use.modifierFault? converter.vocabulary converter.missingBase
            (isBound converter.vocabulary before)
        = none := by
    simp [modifierFault?, modifies.modifier, modifies.target, bound]
  refine ⟨soundAfter, ?_⟩
  rw [boundAfter]
  exact inserted.forall_read_eq_none leaf
    (fun _ => read_regroup (fun _ => modifierFault?_of_aggregate)
      (fun _ => modifierFault?_of_aggregate))
    acceptedUse accepted

/-- One modifier put in: a conversion that binds its target succeeds as before, and opens one
more bound. -/
theorem convert_inserted {bindings : Bindings Q}
    (converted : (converter.convert before).outcome = .ok (some bindings))
    (bound : (bindings.get? target).isSome = true)
    : ∃ opened,
        (converter.convert after).outcome = .ok (some opened)
        ∧ ∀ parameter,
            opened.get? parameter
              = (bindings.get? parameter).map
                  (Modifier.applyAll converter.hierarchy.toGroundLattice
                    (use.modifierAt? converter.vocabulary parameter).toList) := by
  obtain ⟨sound, accepted⟩ := accepted_of_convert_eq_ok converted
  obtain ⟨reached, answered, known⟩ := answer_of_convert_eq_ok converted
  obtain rfl := eq_of_answer_eq_some answered.symm
  have boundBefore : isBound converter.vocabulary before target = true := by
    rwa [known, Option.isSome_map, isSome_foldedRange converter sound] at bound
  obtain ⟨soundAfter, acceptedAfter⟩ :=
    accepted_inserted modifies inserted sound accepted boundBefore
  obtain ⟨opened, ended, knownAfter⟩ :=
    outcome_convert_of_accepted converter after soundAfter acceptedAfter
  have ranges : ∀ parameter,
      opened.get? parameter
        = (reached.get? parameter).map
            (Modifier.applyAll converter.hierarchy.toGroundLattice
              (use.modifierAt? converter.vocabulary parameter).toList) := by
    intro parameter
    rw [knownAfter, openedRange_inserted modifies inserted, known]
  -- the target stays bound, so there is a result
  obtain ⟨range, held⟩ := Option.isSome_iff_exists.mp bound
  have stillBound := ranges target
  rw [held, Option.map_some] at stillBound
  exact ⟨opened, by rw [ended, answer_of_get?_eq_some stillBound], ranges⟩

end Step

/-- Several modifiers put in one after the other open all their bounds, since each of them
keeps the other targets bound. -/
theorem convert_insertedAll {uses : List AnnotationUse} {bindings : Bindings Q}
    (converted : (converter.convert before).outcome = .ok (some bindings))
    (modifiers
      : ∀ use ∈ uses, ∃ kind target,
          use.Modifies converter.vocabulary kind target ∧ (bindings.get? target).isSome = true)
    (inserted : InsertedAll converter.vocabulary uses before after)
    : ∃ opened,
        (converter.convert after).outcome = .ok (some opened)
        ∧ ∀ parameter,
            opened.get? parameter
              = (bindings.get? parameter).map
                  (Modifier.applyAll converter.hierarchy.toGroundLattice
                    (uses.filterMap (modifierAt? converter.vocabulary parameter))) := by
  induction inserted generalizing bindings with
  | nil annotations => exact ⟨bindings, converted, by simp⟩
  | cons first _ ih =>
      obtain ⟨⟨kind, target, modifies, bound⟩, modifiersRest⟩ :=
        List.forall_mem_cons.mp modifiers
      obtain ⟨middle, convertedMiddle, ranges⟩ := convert_inserted modifies first converted bound
      obtain ⟨opened, ended, rangesRest⟩ := ih convertedMiddle (by
        intro use member
        obtain ⟨kind, target, modifies, bound⟩ := modifiersRest use member
        exact ⟨kind, target, modifies, by rwa [ranges, Option.isSome_map]⟩)
      refine ⟨opened, ended, ?_⟩
      intro parameter
      rw [rangesRest, ranges, Option.map_map, List.filterMap_cons]
      congr 1
      funext range
      cases AnnotationUse.modifierAt? converter.vocabulary parameter _ <;> rfl

/-- A modifier put in at any place opens exactly its bound of its target, if the target is
bound. Modifiers of bound parameters that say the same, in whatever order and number and at
whatever places, have the same outcome. -/
theorem convert_modifiers_inserted (converter : Converter Q) (before : List AnnotationUse)
    (bindings : Bindings Q)
    (converted : (converter.convert before).outcome = .ok (some bindings))
    : (∀ use kind target range after,
          use.Modifies converter.vocabulary kind target
          → bindings.get? target = some range
          → Inserted converter.vocabulary use before after
          → ∃ opened,
              (converter.convert after).outcome = .ok (some opened)
              ∧ opened.get? target
                = some (match kind with
                  | .extendsBound => { range with lower := .ground converter.hierarchy.bottom }
                  | .superBound => { range with upper := .ground converter.hierarchy.top })
              ∧ ∀ other, other ≠ target → opened.get? other = bindings.get? other)
      ∧ ∀ uses others after afterOthers,
          (∀ use ∈ uses ++ others, ∃ kind target,
            use.Modifies converter.vocabulary kind target
            ∧ (bindings.get? target).isSome = true)
          → (∀ kind target,
              (∃ use ∈ uses, use.Modifies converter.vocabulary kind target)
              ↔ ∃ use ∈ others, use.Modifies converter.vocabulary kind target)
          → InsertedAll converter.vocabulary uses before after
          → InsertedAll converter.vocabulary others before afterOthers
          → (converter.convert after).outcome = (converter.convert afterOthers).outcome := by
  refine ⟨?_, ?_⟩
  · intro use kind target range after modifies bound inserted
    obtain ⟨opened, ended, ranges⟩ := convert_inserted modifies inserted converted (by simp [bound])
    refine ⟨opened, ended, ?_, ?_⟩
    · rw [ranges, bound, modifies.modifierAt?_eq, if_pos rfl]
      cases kind <;> rfl
    · intro other different
      rw [ranges, modifies.modifierAt?_eq, if_neg (Ne.symm different)]
      simp
  · intro uses others after afterOthers modifiers same inserted insertedOthers
    obtain ⟨modifiersUses, modifiersOthers⟩ := List.forall_mem_append.mp modifiers
    obtain ⟨opened, ended, ranges⟩ := convert_insertedAll converted modifiersUses inserted
    obtain ⟨openedOthers, endedOthers, rangesOthers⟩ :=
      convert_insertedAll converted modifiersOthers insertedOthers
    have equal : opened = openedOthers := by
      apply NameMap.ext_get?
      intro parameter
      simp only [modifies_iff] at same
      rw [ranges, rangesOthers]
      congr 1
      funext range
      simp only [Modifier.applyAll_eq, List.mem_filterMap, same]
    rw [ended, endedOthers, equal]

/-- An aggregate of the package `q`. -/
def aggregateOf (items : List AnnotationUse) : AnnotationUse :=
  ⟨"q.Multi", [("value", .annotations items)]⟩

def extendsX : AnnotationUse :=
  ⟨"q.Extends", [("target", .text "X")]⟩

/-- A variable inside an aggregate with a modifier of its own, and another parameter. -/
def varied : List AnnotationUse :=
  [⟨"q.Var", [("target", .text "X"), ("value", .text "v")]⟩, ⟨"q.Super", [("target", .text "X")]⟩]

theorem convert_modifiers_inserted_varied
    : ∃ opened,
        (convert { vocabulary := ⟨"q"⟩, hierarchy := .keepFirst .tainting, missingBase := .error }
            [aggregateOf (extendsX :: varied), ⟨"q.Tainted", []⟩]).outcome = .ok (some opened)
        ∧ opened.get? "X" = some ⟨.ground .untainted, .ground .tainted⟩
        ∧ (convert { vocabulary := ⟨"q"⟩, hierarchy := .keepFirst .tainting, missingBase := .error }
            [aggregateOf varied, ⟨"q.Tainted", []⟩, extendsX, extendsX]).outcome
          = .ok (some opened) := by
  have inserted := convert_modifiers_inserted
    { vocabulary := ⟨"q"⟩, hierarchy := .keepFirst .tainting, missingBase := .error }
    [aggregateOf varied, ⟨"q.Tainted", []⟩] _ rfl
  have modifies : extendsX.Modifies ⟨"q"⟩ .extendsBound "X" := ⟨by decide, by decide⟩
  have holds : (aggregateOf varied).Aggregates ⟨"q"⟩ varied := ⟨by decide, rfl⟩
  have front : Inserted ⟨"q"⟩ extendsX [aggregateOf varied, ⟨"q.Tainted", []⟩]
      [aggregateOf (extendsX :: varied), ⟨"q.Tainted", []⟩] :=
    .inside holds (.here varied) _
  have back : Inserted ⟨"q"⟩ extendsX [aggregateOf varied, ⟨"q.Tainted", []⟩]
      [aggregateOf varied, ⟨"q.Tainted", []⟩, extendsX] :=
    .later _ (.later _ (.here []))
  have again : Inserted ⟨"q"⟩ extendsX [aggregateOf varied, ⟨"q.Tainted", []⟩, extendsX]
      [aggregateOf varied, ⟨"q.Tainted", []⟩, extendsX, extendsX] :=
    .later _ (.later _ (.here [extendsX]))
  obtain ⟨opened, ended, atX, _⟩ := inserted.1 _ _ _ _ _ modifies rfl front
  refine ⟨opened, ended, atX, ?_⟩
  have same := inserted.2 [extendsX] [extendsX, extendsX] _ _
    (fun use member => ⟨.extendsBound, "X", by
      simp only [List.cons_append, List.nil_append, List.mem_cons, List.not_mem_nil, or_false,
        or_self] at member
      exact ⟨member ▸ modifies, rfl⟩⟩)
    (by simp) (.cons front (.nil _)) (.cons back (.cons again (.nil _)))
  exact same.symm.trans ended

end Converter

end QualifierBindings
