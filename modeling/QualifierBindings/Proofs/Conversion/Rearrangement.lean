import QualifierBindings.Proofs.Conversion.LeafSets

/-! Rearrangements of annotations. Whatever permutes annotations, repeats them, or splits
and nests aggregates at any depth keeps the set of leaves, and with it the result of a
conversion.
-/

namespace QualifierBindings

variable {Q : Type}

namespace AnnotationUse

/-- One list of annotations is made from another one by permuting, by repeating, and by
putting annotations into aggregates or taking them out, all of it any number of times. -/
inductive Rearranged (vocabulary : Vocabulary)
    : List AnnotationUse → List AnnotationUse → Prop where
  | permuted {left right : List AnnotationUse} (order : left.Perm right)
    : Rearranged vocabulary left right
  | repeated (use : AnnotationUse) (rest : List AnnotationUse)
    : Rearranged vocabulary (use :: use :: rest) (use :: rest)
  | expanded {use : AnnotationUse} {items : List AnnotationUse}
    (holds : use.Aggregates vocabulary items) (rest : List AnnotationUse)
    : Rearranged vocabulary (use :: rest) (items ++ rest)
  | before {left right : List AnnotationUse} (rest : List AnnotationUse)
    (changed : Rearranged vocabulary left right)
    : Rearranged vocabulary (left ++ rest) (right ++ rest)
  | symm {left right : List AnnotationUse} (changed : Rearranged vocabulary left right)
    : Rearranged vocabulary right left
  | trans {left middle right : List AnnotationUse}
    (first : Rearranged vocabulary left middle) (second : Rearranged vocabulary middle right)
    : Rearranged vocabulary left right

namespace Rearranged

variable {vocabulary : Vocabulary}

/-- The contents of an aggregate may be rearranged where they are. -/
theorem inside {old new : AnnotationUse} {items others : List AnnotationUse}
    (holdsOld : old.Aggregates vocabulary items) (holdsNew : new.Aggregates vocabulary others)
    (changed : Rearranged vocabulary items others) (rest : List AnnotationUse)
    : Rearranged vocabulary (old :: rest) (new :: rest) :=
  (expanded holdsOld rest).trans ((changed.before rest).trans (expanded holdsNew rest).symm)

/-- Rearrangements keep the leaves, by induction on the changes. -/
theorem mem_leaves_iff_mem_leaves {left right : List AnnotationUse}
    (changed : Rearranged vocabulary left right) (leaf : AnnotationUse)
    : leaf ∈ leaves vocabulary left ↔ leaf ∈ leaves vocabulary right := by
  induction changed with
  | permuted order =>
      rw [mem_leaves_iff, mem_leaves_iff, (perm_document vocabulary order).mem_iff]
  | repeated use rest =>
      simp only [mem_leaves_iff, document_cons, List.mem_cons, List.mem_append]
      tauto
  | expanded holds rest =>
      rw [leaves_cons_of_aggregate holds.1, holds.contents_eq, leaves_append]
  | before rest _ ih => rw [leaves_append, leaves_append, List.mem_append, List.mem_append, ih]
  | symm _ ih => exact ih.symm
  | trans _ _ ihFirst ihSecond => exact ihFirst.trans ihSecond

/-- They neither make nor repair a malformed aggregate. -/
theorem grouped_iff {converter : Converter Q} {left right : List AnnotationUse}
    (changed : Rearranged converter.vocabulary left right)
    : converter.Grouped left ↔ converter.Grouped right := by
  induction changed with
  | permuted order =>
      simp only [Converter.Grouped, (perm_document converter.vocabulary order).mem_iff]
  | repeated use rest =>
      simp only [Converter.Grouped, document_cons, List.mem_cons, List.mem_append,
        or_imp, forall_and]
      tauto
  | @expanded use items holds rest =>
      -- only the aggregate itself is lost, and it holds an array
      have own : converter.vocabulary.classify? use.name = some .aggregate
          → ∃ items, use.element? "value" = some (.annotations items) :=
        fun _ => ⟨items, holds.2⟩
      simp only [Converter.Grouped, document_cons, document_append, holds.contents_eq,
        List.forall_mem_cons, List.mem_append]
      exact and_iff_right own
  | before rest _ ih =>
      simp only [Converter.Grouped, document_append, List.forall_mem_append] at ih ⊢
      rw [ih]
  | symm _ ih => exact ih.symm
  | trans _ _ ihFirst ihSecond => exact ihFirst.trans ihSecond

end Rearranged

end AnnotationUse

namespace Converter

open AnnotationUse GroundLattice

def SameLeaves (converter : Converter Q) (left right : List AnnotationUse) : Prop :=
  ∀ use, use ∈ converter.supportedLeaves left ↔ use ∈ converter.supportedLeaves right

/-- A conversion succeeds for both lists or for none, and then with the same result. -/
def SameResult (converter : Converter Q) (left right : List AnnotationUse) : Prop :=
  ∀ result,
    (converter.convert left).outcome = .ok result ↔ (converter.convert right).outcome = .ok result

/-- Taking annotations out of an aggregate keeps the sequence of supported leaves. -/
theorem supportedLeaves_expanded {converter : Converter Q} {use : AnnotationUse}
    {items : List AnnotationUse} (holds : use.Aggregates converter.vocabulary items)
    (rest : List AnnotationUse)
    : converter.supportedLeaves (use :: rest) = converter.supportedLeaves (items ++ rest) := by
  rw [supportedLeaves, supportedLeaves, leaves_cons_of_aggregate holds.1, holds.contents_eq,
    leaves_append]

/-- So they keep the supported leaves. -/
theorem sameLeaves_of_rearranged {converter : Converter Q} {left right : List AnnotationUse}
    (changed : Rearranged converter.vocabulary left right)
    : converter.SameLeaves left right := by
  intro use
  rw [mem_supportedLeaves_iff, mem_supportedLeaves_iff, changed.mem_leaves_iff_mem_leaves]

/-- Lists with the same supported leaves are converted to the same results. -/
theorem sameResult_of_sameLeaves {converter : Converter Q} {left right : List AnnotationUse}
    (laws : converter.hierarchy.JoinLaws) (groupedLeft : converter.Grouped left)
    (groupedRight : converter.Grouped right) (same : converter.SameLeaves left right)
    : converter.SameResult left right := by
  intro result
  constructor
  · exact convert_eq_ok_of_same_leaves same laws groupedLeft groupedRight
  · have back : converter.SameLeaves right left := fun use => (same use).symm
    exact convert_eq_ok_of_same_leaves back laws groupedRight groupedLeft

/-- Where the join is commutative, associative and idempotent, as it is over both tainting
lattices, the set of supported leaves decides whether a conversion succeeds and with what
result, so rearrangements keep the result; the sequence of supported leaves decides the
error as well. -/
theorem convert_determined_by_leaves
    : (tainting.hierarchy.JoinLaws ∧ inverted.hierarchy.JoinLaws)
      ∧ ∀ (converter : Converter Q) (left right : List AnnotationUse),
          converter.hierarchy.JoinLaws → converter.Grouped left
          → (Rearranged converter.vocabulary left right
              → converter.Grouped right ∧ converter.SameResult left right)
            ∧ (converter.Grouped right
              → (converter.SameLeaves left right → converter.SameResult left right)
                ∧ (converter.supportedLeaves left = converter.supportedLeaves right
                  → (converter.convert left).outcome = (converter.convert right).outcome)) := by
  refine ⟨⟨twoPoint_tainting.joinLaws, twoPoint_inverted.joinLaws⟩, ?_⟩
  intro converter left right laws groupedLeft
  refine ⟨?_, ?_⟩
  · intro changed
    have groupedRight := changed.grouped_iff.mp groupedLeft
    have same := sameLeaves_of_rearranged changed
    exact ⟨groupedRight, sameResult_of_sameLeaves laws groupedLeft groupedRight same⟩
  · intro groupedRight
    refine ⟨?_, ?_⟩
    · intro same
      exact sameResult_of_sameLeaves laws groupedLeft groupedRight same
    · intro same
      exact outcome_convert_of_same_sequence laws groupedLeft groupedRight same

/-- The usual converter for the package `q`. -/
def strictTainting : Converter Taint :=
  { vocabulary := ⟨"q"⟩, hierarchy := tainting.hierarchy, missingBase := .error }

/-- A modifier before its base. -/
def earlyModifier : List AnnotationUse :=
  [⟨"q.Super", []⟩, ⟨"q.Tainted", []⟩]

/-- A modifier before its base is moved behind it, out of the aggregate, and the base repeated. -/
theorem convert_determined_by_leaves_earlyModifier
    : strictTainting.SameResult [⟨"q.Multi", [("value", .annotations earlyModifier)]⟩]
          [⟨"q.Tainted", []⟩, ⟨"q.Tainted", []⟩, ⟨"q.Super", []⟩]
      ∧ (strictTainting.convert
          [⟨"q.Multi", [("value", .annotations earlyModifier)]⟩]).outcome
        = (strictTainting.convert earlyModifier).outcome
      ∧ (strictTainting.convert earlyModifier).outcome
        = .ok (some (.singleton Vocabulary.mainParameter (.ground .tainted))) := by
  have laws : strictTainting.hierarchy.JoinLaws := twoPoint_tainting.joinLaws
  have grouped
      : strictTainting.Grouped [⟨"q.Multi", [("value", .annotations earlyModifier)]⟩] := by
    decide +kernel
  have flat : strictTainting.Grouped earlyModifier := by
    decide +kernel
  have aggregate : Vocabulary.classify? ⟨"q"⟩ "q.Multi" = some .aggregate := by decide
  have holds (items : List AnnotationUse)
      : Aggregates ⟨"q"⟩ ⟨"q.Multi", [("value", .annotations items)]⟩ items :=
    ⟨aggregate, rfl⟩
  have moved : earlyModifier.Perm [⟨"q.Tainted", []⟩, ⟨"q.Super", []⟩] := .swap _ _ _
  have changed : Rearranged ⟨"q"⟩ [⟨"q.Multi", [("value", .annotations earlyModifier)]⟩]
      [⟨"q.Tainted", []⟩, ⟨"q.Tainted", []⟩, ⟨"q.Super", []⟩] :=
    (Rearranged.inside (holds _) (holds _) (.permuted moved) []).trans
      ((Rearranged.expanded (holds _) []).trans (Rearranged.repeated _ _).symm)
  have sequence := @supportedLeaves_expanded _ strictTainting _ _ (holds earlyModifier) []
  refine ⟨?_, ?_, by decide +kernel⟩
  · exact ((convert_determined_by_leaves.2 strictTainting _ _ laws grouped).1 changed).2
  · exact ((convert_determined_by_leaves.2 strictTainting _ _ laws grouped).2 flat).2 sequence

end Converter

end QualifierBindings
