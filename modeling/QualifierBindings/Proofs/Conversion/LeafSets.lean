import Mathlib.Data.Multiset.Fold
import QualifierBindings.Proofs.Conversion.Merging
import QualifierBindings.Proofs.Conversion.Support
import QualifierBindings.Proofs.Hierarchy.TwoPoint

/-! Conversions as functions of sets of leaves. Under the laws of the join only the set of
supported leaves counts for a conversion that succeeds, and for whether it succeeds; their
sequence decides the error. Rearrangements that keep the set of leaves therefore keep the
result.
-/

namespace QualifierBindings

variable {Q : Type}

/-- A fold of contributions depends on their set alone when the combination does not see
order and repetition. -/
theorem foldl_merge_eq_of_mem_iff {α : Type} {combine : α → α → α} [Std.Commutative combine]
    [Std.Associative combine] [Std.IdempotentOp combine] {left right : List (Option α)}
    (same : ∀ contribution, contribution ∈ left ↔ contribution ∈ right)
    : left.foldl (Option.merge combine) none = right.foldl (Option.merge combine) none := by
  classical
  have members : (left : Multiset (Option α)).dedup = (right : Multiset (Option α)).dedup :=
    Multiset.dedup_ext.mpr same
  rw [← Multiset.coe_fold_l (Option.merge combine), ← Multiset.coe_fold_l (Option.merge combine),
    ← Multiset.fold_dedup_idem, members, Multiset.fold_dedup_idem]

/-- Elements without anything to find may be filtered out first. -/
theorem findSome?_filter_of_silent {α β : Type} {keep : α → Bool} {find : α → Option β}
    {list : List α} (silent : ∀ item ∈ list, keep item = false → find item = none)
    : (list.filter keep).findSome? find = list.findSome? find := by
  induction list with
  | nil => rfl
  | cons item rest ih =>
      have later := ih (fun other member => silent other (List.mem_cons_of_mem item member))
      cases kept : keep item with
      | true => rw [List.filter_cons_of_pos kept, List.findSome?_cons, List.findSome?_cons, later]
      | false =>
          rw [List.filter_cons_of_neg (by simp [kept]), List.findSome?_cons,
            silent item List.mem_cons_self kept, later]

namespace Converter

open AnnotationUse

/-- Every aggregate holds an array of annotations. -/
def Grouped (converter : Converter Q) (annotations : List AnnotationUse) : Prop :=
  ∀ use ∈ document converter.vocabulary annotations,
    converter.vocabulary.classify? use.name = some .aggregate
    → ∃ items, use.element? "value" = some (.annotations items)

instance (use : AnnotationUse)
    : Decidable (∃ items, use.element? "value" = some (.annotations items)) :=
  decidable_of_iff ((use.nested? "value").isSome = true)
    (by simp only [Option.isSome_iff_exists, nested?_eq_some_iff])

instance (converter : Converter Q) (annotations : List AnnotationUse)
    : Decidable (converter.Grouped annotations) :=
  inferInstanceAs (Decidable (∀ use ∈ document converter.vocabulary annotations,
    converter.vocabulary.classify? use.name = some .aggregate
    → ∃ items, use.element? "value" = some (.annotations items)))

/-- The leaves that bear on parameters of a type use, in document order. -/
def supportedLeaves (converter : Converter Q) (annotations : List AnnotationUse)
    : List AnnotationUse :=
  (leaves converter.vocabulary annotations).filter converter.supports

/-- The supported leaves are the leaves that are supported. -/
theorem mem_supportedLeaves_iff {converter : Converter Q} {annotations : List AnnotationUse}
    {use : AnnotationUse}
    : use ∈ converter.supportedLeaves annotations
      ↔ use ∈ leaves converter.vocabulary annotations ∧ converter.supports use = true :=
  List.mem_filter

/-- Of grouped annotations only the supported leaves are searched for a malformed one. -/
theorem findSome?_bindingFault {converter : Converter Q} {annotations : List AnnotationUse}
    (grouped : converter.Grouped annotations)
    : (document converter.vocabulary annotations).findSome? (bindingFault? converter.vocabulary)
      = (converter.supportedLeaves annotations).findSome?
          (bindingFault? converter.vocabulary) := by
  rw [supportedLeaves, findSome?_filter_of_silent, leaves, findSome?_filter_of_silent]
  · intro use member aggregate
    have found : converter.vocabulary.classify? use.name = some .aggregate := by
      simpa using aggregate
    obtain ⟨items, held⟩ := grouped use member found
    simp [bindingFault?, found, held]
  · intro use _ unsupported
    exact bindingFault?_of_not_supports unsupported

/-- Only the supported leaves are searched for a refused modifier. -/
theorem findSome?_modifierFault (converter : Converter Q) (annotations : List AnnotationUse)
    (bound : String → Bool)
    : (document converter.vocabulary annotations).findSome?
          (modifierFault? converter.vocabulary converter.missingBase bound)
      = (converter.supportedLeaves annotations).findSome?
          (modifierFault? converter.vocabulary converter.missingBase bound) := by
  rw [supportedLeaves, findSome?_filter_of_silent, leaves, findSome?_filter_of_silent]
  · intro use _ aggregate
    have found : converter.vocabulary.classify? use.name = some .aggregate := by
      simpa using aggregate
    exact modifierFault?_of_aggregate found
  · intro use _ unsupported
    cases modifies : use.modifier? converter.vocabulary with
    | none => simp [modifierFault?, modifies]
    | some modifier =>
        rw [supports_of_modifier? modifies] at unsupported
        contradiction

section SameLeaves

variable {converter : Converter Q} {left right : List AnnotationUse}
  (same : ∀ use, use ∈ converter.supportedLeaves left ↔ use ∈ converter.supportedLeaves right)

include same

/-- What is asked of some leaf, and holds of supported ones alone, is asked of the set. -/
theorem exists_leaf_iff {holds : AnnotationUse → Prop}
    (supported : ∀ use, holds use → converter.supports use = true)
    : (∃ use ∈ leaves converter.vocabulary left, holds use)
      ↔ ∃ use ∈ leaves converter.vocabulary right, holds use := by
  constructor
  · rintro ⟨use, leaf, found⟩
    have member := (same use).mp (mem_supportedLeaves_iff.mpr ⟨leaf, supported use found⟩)
    exact ⟨use, (mem_supportedLeaves_iff.mp member).1, found⟩
  · rintro ⟨use, leaf, found⟩
    have member := (same use).mpr (mem_supportedLeaves_iff.mpr ⟨leaf, supported use found⟩)
    exact ⟨use, (mem_supportedLeaves_iff.mp member).1, found⟩

/-- Lists with the same supported leaves bind the same parameters. -/
theorem isBound_eq_of_same_leaves
    : isBound converter.vocabulary left = isBound converter.vocabulary right := by
  funext parameter
  rw [Bool.eq_iff_iff, isBound_iff, isBound_iff]
  exact exists_leaf_iff same (fun _ found => supports_of_binds found.1)

/-- They have the same modifiers at each parameter, if not in the same order. -/
theorem mem_modifiersAt_of_same_leaves (parameter : String) (modifier : Modifier)
    : modifier ∈ modifiersAt converter.vocabulary parameter left
      ↔ modifier ∈ modifiersAt converter.vocabulary parameter right := by
  simp only [modifiersAt, List.mem_filterMap]
  apply exists_leaf_iff same
  intro use read
  exact supports_of_modifier? (modifierAt?_eq_some_iff.mp read).2

/-- They have the same binders at each parameter, if not in the same order. -/
theorem mem_bindersAt_of_same_leaves (parameter : String) (binder : Binder)
    : binder ∈ bindersAt converter.vocabulary parameter left
      ↔ binder ∈ bindersAt converter.vocabulary parameter right := by
  simp only [bindersAt, List.mem_filterMap]
  apply exists_leaf_iff same
  intro use read
  exact supports_of_binds (binds_of_binder?_eq_some (binderAt?_eq_some_iff.mp read).2)

/-- They open the same bounds. -/
theorem applyAll_eq_of_same_leaves (L : GroundLattice Q) (parameter : String)
    : Modifier.applyAll L (modifiersAt converter.vocabulary parameter left)
      = Modifier.applyAll L (modifiersAt converter.vocabulary parameter right) := by
  funext range
  rw [Modifier.applyAll_eq, Modifier.applyAll_eq]
  simp only [mem_modifiersAt_of_same_leaves same]

/-- They fold to the same ranges, since the join does not see order and repetition. -/
theorem foldedRange_eq_of_same_leaves (laws : converter.hierarchy.JoinLaws) (parameter : String)
    : converter.foldedRange parameter left = converter.foldedRange parameter right := by
  have := Range.pointwise_comm laws.comm
  have := Range.pointwise_assoc laws.assoc
  have := Range.pointwise_idem laws.idem
  rw [foldedRange, foldedRange, parameterFold, parameterFold, foldFrom_eq_foldl,
    foldFrom_eq_foldl]
  apply foldl_merge_eq_of_mem_iff
  intro contribution
  simp only [List.mem_map, mem_bindersAt_of_same_leaves same]

/-- When one of them is converted so is the other one, with the same result. -/
theorem convert_eq_ok_of_same_leaves (laws : converter.hierarchy.JoinLaws)
    (groupedLeft : converter.Grouped left) (groupedRight : converter.Grouped right)
    {result : Option (Bindings Q)} (converted : (converter.convert left).outcome = .ok result)
    : (converter.convert right).outcome = .ok result := by
  obtain ⟨sound, accepted⟩ := accepted_of_convert_eq_ok converted
  obtain ⟨bindings, rfl, known⟩ := answer_of_convert_eq_ok converted
  -- faults are found among the supported leaves, so neither list has any
  have soundRight : ∀ use ∈ document converter.vocabulary right,
      use.bindingFault? converter.vocabulary = none := by
    rw [← List.findSome?_eq_none_iff, findSome?_bindingFault groupedLeft,
      List.findSome?_eq_none_iff] at sound
    rw [← List.findSome?_eq_none_iff, findSome?_bindingFault groupedRight,
      List.findSome?_eq_none_iff]
    exact fun use member => sound use ((same use).mpr member)
  have acceptedRight : ∀ use ∈ document converter.vocabulary right,
      use.modifierFault? converter.vocabulary converter.missingBase
        (isBound converter.vocabulary right) = none := by
    rw [← List.findSome?_eq_none_iff, findSome?_modifierFault,
      List.findSome?_eq_none_iff] at accepted
    rw [← List.findSome?_eq_none_iff, findSome?_modifierFault, List.findSome?_eq_none_iff,
      ← isBound_eq_of_same_leaves same]
    exact fun use member => accepted use ((same use).mpr member)
  obtain ⟨others, ended, knownRight⟩ :=
    outcome_convert_of_accepted converter right soundRight acceptedRight
  have equal : bindings = others := by
    apply NameMap.ext_get?
    intro parameter
    rw [known, knownRight, foldedRange_eq_of_same_leaves same laws,
      applyAll_eq_of_same_leaves same]
  rw [ended, equal]

end SameLeaves

/-- The sequence of supported leaves decides the whole outcome, errors included. -/
theorem outcome_convert_of_same_sequence {converter : Converter Q}
    (laws : converter.hierarchy.JoinLaws) {left right : List AnnotationUse}
    (groupedLeft : converter.Grouped left) (groupedRight : converter.Grouped right)
    (same : converter.supportedLeaves left = converter.supportedLeaves right)
    : (converter.convert left).outcome = (converter.convert right).outcome := by
  have members : ∀ use,
      use ∈ converter.supportedLeaves left ↔ use ∈ converter.supportedLeaves right := by
    simp [same]
  apply outcome_convert_congr
  · rw [findSome?_bindingFault groupedLeft, findSome?_bindingFault groupedRight, same]
  · intro bound
    rw [findSome?_modifierFault, findSome?_modifierFault, same]
  · intro parameter
    rw [foldedRange_eq_of_same_leaves members laws, applyAll_eq_of_same_leaves members]

end Converter

end QualifierBindings
