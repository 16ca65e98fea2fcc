import QualifierBindings.Proofs.Annotation.Amendment

/-! One more annotation at any place of an annotation tree: between the annotations of the list
or between those that an aggregate holds, at any depth. What is read off the document gains the
reading of the new annotation, and what is folded along the tree does not see an annotation
that has nothing to contribute.
-/

namespace QualifierBindings

namespace AnnotationUse

/-- The second list is the first one with an annotation put in at some place. -/
inductive Inserted (vocabulary : Vocabulary) (use : AnnotationUse)
    : List AnnotationUse → List AnnotationUse → Prop where
  | here (rest : List AnnotationUse) : Inserted vocabulary use rest (use :: rest)
  | later (first : AnnotationUse) {rest longer : List AnnotationUse}
    (inserted : Inserted vocabulary use rest longer)
    : Inserted vocabulary use (first :: rest) (first :: longer)
  | inside {container : AnnotationUse} {items longer : List AnnotationUse}
    (holds : container.Aggregates vocabulary items)
    (inserted : Inserted vocabulary use items longer) (rest : List AnnotationUse)
    : Inserted vocabulary use (container :: rest) (container.regroup longer :: rest)

/-- Several annotations put in one after the other, each at a place of its own. -/
inductive InsertedAll (vocabulary : Vocabulary)
    : List AnnotationUse → List AnnotationUse → List AnnotationUse → Prop where
  | nil (annotations : List AnnotationUse) : InsertedAll vocabulary [] annotations annotations
  | cons {use : AnnotationUse} {uses before middle after : List AnnotationUse}
    (first : Inserted vocabulary use before middle)
    (rest : InsertedAll vocabulary uses middle after)
    : InsertedAll vocabulary (use :: uses) before after

namespace Inserted

variable {vocabulary : Vocabulary} {use : AnnotationUse} {before after : List AnnotationUse}
  (inserted : Inserted vocabulary use before after)
  (leaf : vocabulary.classify? use.name ≠ some .aggregate)

include inserted leaf

/-- A reading that does not see what aggregates hold gains the reading of a new leaf. -/
theorem filterMap_document {α : Type} {read : AnnotationUse → Option α}
    (aggregates
      : ∀ container, vocabulary.classify? container.name = some .aggregate
          → ∀ items, read (container.regroup items) = read container)
    : ((document vocabulary after).filterMap read).Perm
        ((read use).toList ++ (document vocabulary before).filterMap read) := by
  induction inserted with
  | here rest =>
      rw [filterMap_document_cons, contents_of_not_aggregate leaf, document_nil,
        List.filterMap_nil, List.nil_append]
  | later first _ ih =>
      rw [filterMap_document_cons, filterMap_document_cons]
      -- the new reading moves to the front, past the contents of the first one and itself
      have grown := (ih.append_left
        ((document vocabulary (first.contents vocabulary)).filterMap read)).trans
        (List.perm_append_comm_assoc _ _ _)
      exact (grown.append_left _).trans (List.perm_append_comm_assoc _ _ _)
  | inside holds _ rest ih =>
      rw [filterMap_document_cons, filterMap_document_cons, (holds.regroup _).contents_eq,
        holds.contents_eq, aggregates _ holds.1]
      have grown := ih.append_right ((document vocabulary rest).filterMap read)
      rw [List.append_assoc] at grown
      exact (grown.append_left _).trans (List.perm_append_comm_assoc _ _ _)

/-- Where nothing is found, a new leaf in which nothing is found adds nothing. -/
theorem forall_read_eq_none {α : Type} {read : AnnotationUse → Option α}
    (aggregates
      : ∀ container, vocabulary.classify? container.name = some .aggregate
          → ∀ items, read (container.regroup items) = read container)
    (silent : read use = none) (nothing : ∀ item ∈ document vocabulary before, read item = none)
    : ∀ item ∈ document vocabulary after, read item = none := by
  have readings := inserted.filterMap_document leaf aggregates
  rw [silent, List.filterMap_eq_nil_iff.mpr nothing] at readings
  exact List.filterMap_eq_nil_iff.mp readings.eq_nil

theorem modifiersAt_perm (parameter : String)
    : (modifiersAt vocabulary parameter after).Perm
        ((use.modifierAt? vocabulary parameter).toList
          ++ modifiersAt vocabulary parameter before) := by
  rw [modifiersAt_eq_filterMap_document, modifiersAt_eq_filterMap_document]
  exact inserted.filterMap_document leaf (fun _ =>
    read_regroup (fun _ => modifierAt?_of_aggregate) (fun _ => modifierAt?_of_aggregate))

/-- The fold of a parameter does not see a new leaf that has no binder for it. -/
theorem foldFrom_eq {α : Type} {combine : α → α → α} {own : Binder → α} {parameter : String}
    (silent : use.binderAt? vocabulary parameter = none) (folded : Option α)
    : foldFrom combine own vocabulary parameter folded after
      = foldFrom combine own vocabulary parameter folded before := by
  induction inserted generalizing folded with
  | here rest =>
      rw [foldFrom_cons, silent, contents_of_not_aggregate leaf, foldFrom_nil, Option.map_none,
        Option.merge_none_right, Option.merge_none_right]
  | later first _ ih => rw [foldFrom_cons, foldFrom_cons, ih]
  | inside holds _ rest ih =>
      have ownSilent (use : AnnotationUse) := @binderAt?_of_aggregate vocabulary parameter use
      rw [foldFrom_cons, foldFrom_cons, (holds.regroup _).contents_eq, holds.contents_eq, ih,
        read_regroup ownSilent ownSilent holds.1]

end Inserted

end AnnotationUse

end QualifierBindings
