import QualifierBindings.AnnotationUse
import QualifierBindings.Vocabulary

/-! Annotations in document order. An aggregate is expanded through its element
`value`, at any depth, and stands before what it holds. All facts about nested
annotations are obtained by one induction over lists, `documentInduction`, whose
step descends into the head and moves on to the rest.
-/

namespace QualifierBindings

namespace AnnotationUse

/-- The annotations that an aggregate holds. Other annotations hold none, whatever
their elements. -/
def contents (vocabulary : Vocabulary) (use : AnnotationUse) : List AnnotationUse :=
  if vocabulary.classify? use.name = some .aggregate then (use.nested? "value").getD [] else []

/-- What is no aggregate is taken to hold nothing. -/
theorem contents_of_not_aggregate {vocabulary : Vocabulary} {use : AnnotationUse}
    (other : vocabulary.classify? use.name ≠ some .aggregate)
    : use.contents vocabulary = [] :=
  if_neg other

/-- An aggregate holds the array of annotations in its value, if there is one. -/
theorem contents_of_aggregate {vocabulary : Vocabulary} {use : AnnotationUse}
    (aggregate : vocabulary.classify? use.name = some .aggregate)
    : use.contents vocabulary = (use.nested? "value").getD [] :=
  if_pos aggregate

/-- Nested annotations are those of an array that the element holds. -/
theorem nested?_eq_some_iff {use : AnnotationUse} {element : String}
    {items : List AnnotationUse}
    : use.nested? element = some items ↔ use.element? element = some (.annotations items) := by
  unfold nested?
  cases use.element? element with
  | none => simp
  | some value => cases value <;> simp [ElementValue.items?]

def Aggregates (vocabulary : Vocabulary) (use : AnnotationUse) (items : List AnnotationUse)
    : Prop :=
  vocabulary.classify? use.name = some .aggregate
  ∧ use.element? "value" = some (.annotations items)

/-- The items of a well-formed aggregate are its contents. -/
theorem Aggregates.contents_eq {vocabulary : Vocabulary} {use : AnnotationUse}
    {items : List AnnotationUse} (holds : use.Aggregates vocabulary items)
    : use.contents vocabulary = items := by
  rw [contents_of_aggregate holds.1, nested?_eq_some_iff.mpr holds.2, Option.getD_some]

/-- Nested annotations are smaller than the annotation that holds them. -/
theorem sizeOf_nested_lt {use : AnnotationUse} {element : String} {items : List AnnotationUse}
    (found : use.nested? element = some items)
    : sizeOf items < sizeOf use := by
  have member := Entries.mem_of_get?_eq_some (nested?_eq_some_iff.mp found)
  have below := List.sizeOf_lt_of_mem member
  cases use with
  | mk name elements =>
      simp only [Prod.mk.sizeOf_spec, ElementValue.annotations.sizeOf_spec] at below
      simp only [AnnotationUse.mk.sizeOf_spec]
      omega

/-- The contents of the first annotation are smaller than the whole list, so that both can be
visited by one recursion. -/
theorem sizeOf_contents_lt (vocabulary : Vocabulary) (use : AnnotationUse)
    (rest : List AnnotationUse)
    : sizeOf (use.contents vocabulary) < sizeOf (use :: rest) := by
  have positive : sizeOf ([] : List AnnotationUse) < sizeOf (use :: rest) := by
    cases use
    simp only [List.nil.sizeOf_spec, List.cons.sizeOf_spec, AnnotationUse.mk.sizeOf_spec]
    omega
  by_cases aggregate : vocabulary.classify? use.name = some .aggregate
  · rw [contents_of_aggregate aggregate]
    cases found : use.nested? "value" with
    | none => exact positive
    | some items =>
        have below := sizeOf_nested_lt found
        simp only [Option.getD_some, List.cons.sizeOf_spec]
        omega
  · rw [contents_of_not_aggregate aggregate]
    exact positive

/-- A fact about lists of annotations holds of all of them if it passes from the
contents of the first one and from the others to the whole list. -/
@[elab_as_elim]
theorem documentInduction (vocabulary : Vocabulary) {motive : List AnnotationUse → Prop}
    (nil : motive [])
    (cons
      : ∀ use rest, motive (use.contents vocabulary) → motive rest → motive (use :: rest))
    (annotations : List AnnotationUse)
    : motive annotations := by
  cases annotations with
  | nil => exact nil
  | cons use rest =>
      exact cons use rest (documentInduction vocabulary nil cons (use.contents vocabulary))
        (documentInduction vocabulary nil cons rest)
termination_by sizeOf annotations
decreasing_by
  · exact sizeOf_contents_lt vocabulary use rest
  · simp only [List.cons.sizeOf_spec]
    omega

/-- All annotations in document order, each aggregate before its contents. -/
def document (vocabulary : Vocabulary) : List AnnotationUse → List AnnotationUse
  | [] => []
  | use :: rest =>
      use :: (document vocabulary (use.contents vocabulary) ++ document vocabulary rest)
termination_by annotations => sizeOf annotations
decreasing_by
  · exact sizeOf_contents_lt vocabulary use rest
  · simp only [List.cons.sizeOf_spec]
    omega

@[simp] theorem document_nil (vocabulary : Vocabulary) : document vocabulary [] = [] := by
  rw [document]

/-- An annotation is followed by what it holds, and then by what stands after it. -/
theorem document_cons (vocabulary : Vocabulary) (use : AnnotationUse)
    (rest : List AnnotationUse)
    : document vocabulary (use :: rest)
      = use :: (document vocabulary (use.contents vocabulary) ++ document vocabulary rest) := by
  rw [document]

/-- What holds along a document holds of its first annotation, of what that contains, and
of the others. -/
theorem forall_mem_document_cons {vocabulary : Vocabulary} {holds : AnnotationUse → Prop}
    {use : AnnotationUse} {rest : List AnnotationUse}
    : (∀ item ∈ document vocabulary (use :: rest), holds item)
      ↔ holds use ∧ (∀ item ∈ document vocabulary (use.contents vocabulary), holds item)
        ∧ ∀ item ∈ document vocabulary rest, holds item := by
  rw [document_cons, List.forall_mem_cons, List.forall_mem_append]

/-- A reading along a document takes in the first annotation, then its contents. -/
theorem filterMap_document_cons {α : Type} {vocabulary : Vocabulary}
    (read : AnnotationUse → Option α) (use : AnnotationUse) (rest : List AnnotationUse)
    : (document vocabulary (use :: rest)).filterMap read
      = (read use).toList ++ ((document vocabulary (use.contents vocabulary)).filterMap read
        ++ (document vocabulary rest).filterMap read) := by
  rw [document_cons, List.filterMap_cons, List.filterMap_append]
  cases read use <;> rfl

/-- The annotations of a list are visited one after the other. -/
theorem document_eq_flatMap (vocabulary : Vocabulary) (annotations : List AnnotationUse)
    : document vocabulary annotations
      = annotations.flatMap (fun use => use :: document vocabulary (use.contents vocabulary)) := by
  induction annotations with
  | nil => simp
  | cons use rest ih => rw [document_cons, ih, List.flatMap_cons, List.cons_append]

/-- Annotations after others are visited after them. -/
theorem document_append (vocabulary : Vocabulary) (left right : List AnnotationUse)
    : document vocabulary (left ++ right)
      = document vocabulary left ++ document vocabulary right := by
  rw [document_eq_flatMap vocabulary (left ++ right), List.flatMap_append,
    ← document_eq_flatMap, ← document_eq_flatMap]

/-- Leaves are their own document. -/
theorem document_eq_self {vocabulary : Vocabulary} {annotations : List AnnotationUse}
    (leaf : ∀ use ∈ annotations, vocabulary.classify? use.name ≠ some .aggregate)
    : document vocabulary annotations = annotations := by
  induction annotations with
  | nil => simp
  | cons use rest ih =>
      obtain ⟨own, later⟩ := List.forall_mem_cons.mp leaf
      rw [document_cons, contents_of_not_aggregate own, document_nil, List.nil_append, ih later]

/-- When annotations change places, so do those inside. -/
theorem perm_document (vocabulary : Vocabulary) {left right : List AnnotationUse}
    (order : left.Perm right)
    : (document vocabulary left).Perm (document vocabulary right) := by
  rw [document_eq_flatMap vocabulary left, document_eq_flatMap vocabulary right]
  exact order.flatMap_right _

/-- The annotations that remain when every aggregate gives way to its contents. -/
def leaves (vocabulary : Vocabulary) (annotations : List AnnotationUse) : List AnnotationUse :=
  (document vocabulary annotations).filter
    (fun use => vocabulary.classify? use.name ≠ some .aggregate)

/-- The leaves are the annotations of the document that are no aggregates. -/
theorem mem_leaves_iff {vocabulary : Vocabulary} {annotations : List AnnotationUse}
    {use : AnnotationUse}
    : use ∈ leaves vocabulary annotations
      ↔ use ∈ document vocabulary annotations
        ∧ vocabulary.classify? use.name ≠ some .aggregate := by
  simp [leaves]

/-- A leaf stands among the annotations themselves or inside one of them. -/
theorem mem_leaves_iff_exists {vocabulary : Vocabulary} {annotations : List AnnotationUse}
    {leaf : AnnotationUse}
    : leaf ∈ leaves vocabulary annotations
      ↔ (leaf ∈ annotations ∧ vocabulary.classify? leaf.name ≠ some .aggregate)
        ∨ ∃ use ∈ annotations, leaf ∈ leaves vocabulary (use.contents vocabulary) := by
  simp only [mem_leaves_iff, ← and_assoc, exists_and_right, ← or_and_right]
  rw [document_eq_flatMap]
  simp only [List.mem_flatMap, List.mem_cons, and_or_left, exists_or, exists_eq_right']

@[simp] theorem leaves_nil (vocabulary : Vocabulary) : leaves vocabulary [] = [] := by
  simp [leaves]

/-- The leaves of annotations after others come after theirs. -/
theorem leaves_append (vocabulary : Vocabulary) (left right : List AnnotationUse)
    : leaves vocabulary (left ++ right) = leaves vocabulary left ++ leaves vocabulary right := by
  simp [leaves, document_append]

/-- An aggregate is replaced by the leaves that it holds. -/
theorem leaves_cons_of_aggregate {vocabulary : Vocabulary} {use : AnnotationUse}
    (aggregate : vocabulary.classify? use.name = some .aggregate) (rest : List AnnotationUse)
    : leaves vocabulary (use :: rest)
      = leaves vocabulary (use.contents vocabulary) ++ leaves vocabulary rest := by
  simp [leaves, document_cons, aggregate]

/-- What is read off annotations one by one, and off aggregates never, is the same
along the document and along its leaves. -/
theorem filterMap_leaves {α : Type} {vocabulary : Vocabulary} {read : AnnotationUse → Option α}
    (silent
      : ∀ use, vocabulary.classify? use.name = some .aggregate → read use = none)
    (annotations : List AnnotationUse)
    : (leaves vocabulary annotations).filterMap read
      = (document vocabulary annotations).filterMap read := by
  rw [leaves, List.filterMap_filter]
  congr 1
  funext use
  by_cases aggregate : vocabulary.classify? use.name = some .aggregate
  · simp [aggregate, silent use aggregate]
  · simp [aggregate]

/-- A reading over the leaves starts with the first annotation and its contents, one of
which is silent. -/
theorem filterMap_leaves_cons {α : Type} {vocabulary : Vocabulary}
    {read : AnnotationUse → Option α}
    (silent
      : ∀ use, vocabulary.classify? use.name = some .aggregate → read use = none)
    (use : AnnotationUse) (rest : List AnnotationUse)
    : (leaves vocabulary (use :: rest)).filterMap read
      = (read use).toList ++ (leaves vocabulary (use.contents vocabulary)).filterMap read
        ++ (leaves vocabulary rest).filterMap read := by
  rw [filterMap_leaves silent, filterMap_leaves silent, filterMap_leaves silent,
    filterMap_document_cons, List.append_assoc]

/-- Selected leaves start with the first annotation, if it is selected, and the leaves selected
among its contents. -/
theorem filter_leaves_cons {vocabulary : Vocabulary} {keep : AnnotationUse → Bool}
    (silent
      : ∀ use, vocabulary.classify? use.name = some .aggregate → keep use = false)
    (use : AnnotationUse) (rest : List AnnotationUse)
    : (leaves vocabulary (use :: rest)).filter keep
      = [use].filter keep ++ (leaves vocabulary (use.contents vocabulary)).filter keep
        ++ (leaves vocabulary rest).filter keep := by
  have single : [use].filter keep = (Option.guard keep use).toList := by
    cases selected : keep use <;> simp [Option.guard, selected]
  rw [single]
  simp only [← List.filterMap_eq_filter]
  apply filterMap_leaves_cons
  intro use aggregate
  simp [Option.guard, silent use aggregate]

end AnnotationUse

end QualifierBindings
