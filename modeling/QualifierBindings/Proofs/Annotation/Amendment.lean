import QualifierBindings.Proofs.Annotation.ParameterFold

/-! Amending annotations at every depth: each leaf gives way to annotations that stand for
it, and the aggregates keep their places. What is read off the document, and what is folded
along the tree, is then compared leaf by leaf.
-/

namespace QualifierBindings

namespace AnnotationUse

/-- An aggregate with other contents. One without an array of annotations stays as it is. -/
def regroup (use : AnnotationUse) (items : List AnnotationUse) : AnnotationUse :=
  match use.nested? "value" with
  | none => use
  | some _ => use.withElement "value" (.annotations items)

/-- The annotations with every leaf replaced, whatever aggregates it stands in. -/
def amend (vocabulary : Vocabulary) (replace : AnnotationUse → List AnnotationUse)
    : List AnnotationUse → List AnnotationUse
  | [] => []
  | use :: rest =>
      let replaced :=
        if vocabulary.classify? use.name = some .aggregate then
          [use.regroup (amend vocabulary replace (use.contents vocabulary))]
        else replace use
      replaced ++ amend vocabulary replace rest
termination_by annotations => sizeOf annotations
decreasing_by
  · exact sizeOf_contents_lt vocabulary use rest
  · simp only [List.cons.sizeOf_spec]
    omega

variable {vocabulary : Vocabulary} {replace : AnnotationUse → List AnnotationUse}

/-- Setting an element leaves all other ones as they are. -/
theorem element?_withElement (use : AnnotationUse) (element other : String)
    (value : ElementValue AnnotationUse)
    : (use.withElement element value).element? other
      = if other = element then some value else use.element? other :=
  Entries.get?_insert element other value use.elements

@[simp] theorem regroup_name (use : AnnotationUse) (items : List AnnotationUse)
    : (use.regroup items).name = use.name := by
  unfold regroup
  cases use.nested? "value" <;> rfl

/-- An array of annotations is replaced by the other one. -/
theorem regroup_of_nested? {use : AnnotationUse} {held : List AnnotationUse}
    (found : use.nested? "value" = some held) (items : List AnnotationUse)
    : use.regroup items = use.withElement "value" (.annotations items) := by
  simp only [regroup, found]

/-- An aggregate with other contents holds these. -/
theorem Aggregates.regroup {use : AnnotationUse} {items : List AnnotationUse}
    (holds : use.Aggregates vocabulary items) (others : List AnnotationUse)
    : (use.regroup others).Aggregates vocabulary others := by
  refine ⟨by rw [regroup_name]; exact holds.1, ?_⟩
  rw [regroup_of_nested? (nested?_eq_some_iff.mpr holds.2), element?_withElement, if_pos rfl]

@[simp] theorem amend_nil : amend vocabulary replace [] = [] := by
  rw [amend]

/-- An aggregate stays, with its contents amended. -/
theorem amend_cons_of_aggregate {use : AnnotationUse}
    (aggregate : vocabulary.classify? use.name = some .aggregate) (rest : List AnnotationUse)
    : amend vocabulary replace (use :: rest)
      = use.regroup (amend vocabulary replace (use.contents vocabulary))
        :: amend vocabulary replace rest := by
  rw [amend, if_pos aggregate, List.singleton_append]

/-- A leaf is replaced by what it is to become. -/
theorem amend_cons_of_not_aggregate {use : AnnotationUse}
    (other : vocabulary.classify? use.name ≠ some .aggregate) (rest : List AnnotationUse)
    : amend vocabulary replace (use :: rest)
      = replace use ++ amend vocabulary replace rest := by
  rw [amend, if_neg other]

/-- An amended aggregate holds its amended contents. -/
theorem contents_regroup_amend {use : AnnotationUse}
    (aggregate : vocabulary.classify? use.name = some .aggregate)
    : (use.regroup (amend vocabulary replace (use.contents vocabulary))).contents vocabulary
      = amend vocabulary replace (use.contents vocabulary) := by
  cases held : use.nested? "value" with
  | none =>
      have empty : use.contents vocabulary = [] := by
        rw [contents_of_aggregate aggregate, held, Option.getD_none]
      simp [regroup, held, empty]
  | some items =>
      have holds : use.Aggregates vocabulary items := ⟨aggregate, nested?_eq_some_iff.mp held⟩
      exact (holds.regroup _).contents_eq

/-- Whether an aggregate is well-formed does not depend on what it holds. -/
theorem bindingFault?_regroup {use : AnnotationUse}
    (aggregate : vocabulary.classify? use.name = some .aggregate) (items : List AnnotationUse)
    : (use.regroup items).bindingFault? vocabulary = use.bindingFault? vocabulary := by
  cases held : use.nested? "value" with
  | none => simp [regroup, held]
  | some others =>
      have found := nested?_eq_some_iff.mp held
      have kept : (use.withElement "value" (.annotations items)).name = use.name := rfl
      simp [regroup_of_nested? held, bindingFault?, kept, aggregate, element?_withElement, found]

/-- What is silent on aggregates stays so on amended ones. -/
theorem read_regroup {α : Type} {before after : AnnotationUse → Option α}
    (silentBefore : ∀ use, vocabulary.classify? use.name = some .aggregate → before use = none)
    (silentAfter : ∀ use, vocabulary.classify? use.name = some .aggregate → after use = none)
    {use : AnnotationUse} (aggregate : vocabulary.classify? use.name = some .aggregate)
    (items : List AnnotationUse)
    : after (use.regroup items) = before use := by
  have still : vocabulary.classify? (use.regroup items).name = some .aggregate := by
    rwa [regroup_name]
  rw [silentBefore use aggregate, silentAfter _ still]

/-- A reading of an amended document is a reading of the document itself when amended
aggregates, and the replacements of leaves, are read as what they stand for. -/
theorem filterMap_document_amend {α : Type} {before after : AnnotationUse → Option α}
    (annotations : List AnnotationUse)
    (aggregates
      : ∀ use ∈ document vocabulary annotations,
          vocabulary.classify? use.name = some .aggregate
          → ∀ items, after (use.regroup items) = before use)
    (leaf
      : ∀ use ∈ document vocabulary annotations,
          vocabulary.classify? use.name ≠ some .aggregate
          → (document vocabulary (replace use)).filterMap after = (before use).toList)
    : (document vocabulary (amend vocabulary replace annotations)).filterMap after
      = (document vocabulary annotations).filterMap before := by
  induction annotations using documentInduction vocabulary with
  | nil => simp
  | cons use rest ihContents ihRest =>
      obtain ⟨ownAggregate, aggregatesInside, aggregatesLater⟩ :=
        forall_mem_document_cons.mp aggregates
      obtain ⟨ownLeaf, leafInside, leafLater⟩ := forall_mem_document_cons.mp leaf
      have inside := ihContents aggregatesInside leafInside
      have later := ihRest aggregatesLater leafLater
      by_cases aggregate : vocabulary.classify? use.name = some .aggregate
      -- an aggregate is followed by its contents, a leaf by nothing of its own
      · rw [amend_cons_of_aggregate aggregate, filterMap_document_cons, filterMap_document_cons,
          contents_regroup_amend aggregate, inside, later, ownAggregate aggregate]
      · rw [amend_cons_of_not_aggregate aggregate, document_append, List.filterMap_append,
          ownLeaf aggregate, later, filterMap_document_cons, contents_of_not_aggregate aggregate,
          document_nil, List.filterMap_nil, List.nil_append]

/-- What is found first is the same when it is the same at every place. -/
theorem findSome?_document_amend {α : Type} {read : AnnotationUse → Option α}
    (annotations : List AnnotationUse)
    (aggregates
      : ∀ use ∈ document vocabulary annotations,
          vocabulary.classify? use.name = some .aggregate
          → ∀ items, read (use.regroup items) = read use)
    (leaf
      : ∀ use ∈ document vocabulary annotations,
          vocabulary.classify? use.name ≠ some .aggregate
          → (document vocabulary (replace use)).filterMap read = (read use).toList)
    : (document vocabulary (amend vocabulary replace annotations)).findSome? read
      = (document vocabulary annotations).findSome? read := by
  rw [← List.head?_filterMap, filterMap_document_amend annotations aggregates leaf,
    List.head?_filterMap]

variable {α β : Type} {combine : α → α → α} {own : Binder → α} {parameter : String}

/-- A fold goes on over the later annotations with what it has reached over the earlier ones. -/
theorem foldFrom_append (folded : Option α) (left right : List AnnotationUse)
    : foldFrom combine own vocabulary parameter folded (left ++ right)
      = foldFrom combine own vocabulary parameter
          (foldFrom combine own vocabulary parameter folded left) right := by
  induction left generalizing folded with
  | nil => simp
  | cons use rest ih => rw [List.cons_append, foldFrom_cons, foldFrom_cons, ih]

/-- Amending keeps the fold of a parameter when each leaf gives way to annotations that
contribute the same. -/
theorem foldFrom_amend
    (leaf
      : ∀ use folded,
          vocabulary.classify? use.name ≠ some .aggregate
          → foldFrom combine own vocabulary parameter folded (replace use)
            = foldFrom combine own vocabulary parameter folded [use])
    (folded : Option α) (annotations : List AnnotationUse)
    : foldFrom combine own vocabulary parameter folded (amend vocabulary replace annotations)
      = foldFrom combine own vocabulary parameter folded annotations := by
  induction annotations using documentInduction vocabulary generalizing folded with
  | nil => simp
  | cons use rest ihContents ihRest =>
      by_cases aggregate : vocabulary.classify? use.name = some .aggregate
      · have silent (use : AnnotationUse) := @binderAt?_of_aggregate vocabulary parameter use
        rw [amend_cons_of_aggregate aggregate, foldFrom_cons, foldFrom_cons, ihRest,
          contents_regroup_amend aggregate, ihContents, read_regroup silent silent aggregate]
      · have moved : use :: rest = [use] ++ rest := rfl
        rw [amend_cons_of_not_aggregate aggregate, foldFrom_append, leaf use folded aggregate,
          ihRest, moved, foldFrom_append]

/-- The annotations without the leaves that are not to be kept, at every depth. -/
def retain (vocabulary : Vocabulary) (keep : AnnotationUse → Prop) [DecidablePred keep]
    (annotations : List AnnotationUse) : List AnnotationUse :=
  amend vocabulary (fun use => if keep use then [use] else []) annotations

section Retained

variable {keep : AnnotationUse → Prop} [DecidablePred keep]

/-- A reading that agrees on the leaves that are kept, and finds nothing in the others, is not
changed by leaving those out. -/
theorem filterMap_document_retain {before after : AnnotationUse → Option β}
    (annotations : List AnnotationUse)
    (aggregates
      : ∀ use, vocabulary.classify? use.name = some .aggregate
          → ∀ items, after (use.regroup items) = before use)
    (kept : ∀ use, keep use → after use = before use)
    (dropped : ∀ use ∈ document vocabulary annotations, ¬keep use → before use = none)
    : (document vocabulary (retain vocabulary keep annotations)).filterMap after
      = (document vocabulary annotations).filterMap before := by
  apply filterMap_document_amend
  · intro use _ aggregate items
    exact aggregates use aggregate items
  · intro use member leaf
    by_cases stays : keep use
    · rw [if_pos stays, document_eq_self (by simpa using leaf), List.filterMap_cons,
        List.filterMap_nil, kept use stays]
      cases before use <;> rfl
    · rw [if_neg stays, document_nil, dropped use member stays]
      rfl

/-- What is found first is the same when nothing is found in the leaves left out. -/
theorem findSome?_document_retain {before after : AnnotationUse → Option β}
    (annotations : List AnnotationUse)
    (aggregates
      : ∀ use, vocabulary.classify? use.name = some .aggregate
          → ∀ items, after (use.regroup items) = before use)
    (kept : ∀ use, keep use → after use = before use)
    (dropped : ∀ use ∈ document vocabulary annotations, ¬keep use → before use = none)
    : (document vocabulary (retain vocabulary keep annotations)).findSome? after
      = (document vocabulary annotations).findSome? before := by
  rw [← List.head?_filterMap, filterMap_document_retain annotations aggregates kept dropped,
    List.head?_filterMap]

/-- Leaves that have no binder for a parameter may be left out of its fold. -/
theorem foldFrom_retain
    (silent : ∀ use, ¬keep use → use.binderAt? vocabulary parameter = none)
    (folded : Option α) (annotations : List AnnotationUse)
    : foldFrom combine own vocabulary parameter folded (retain vocabulary keep annotations)
      = foldFrom combine own vocabulary parameter folded annotations := by
  apply foldFrom_amend
  intro use folded leaf
  by_cases stays : keep use
  · rw [if_pos stays]
  · rw [if_neg stays, foldFrom_nil, foldFrom_of_silent]
    · simpa using leaf
    · simpa using silent use stays

end Retained

end AnnotationUse

end QualifierBindings
