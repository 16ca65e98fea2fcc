import QualifierBindings.Proofs.Annotation.Roles

/-! What annotations contribute to one parameter, folded along their tree. An aggregate
contributes the fold of its contents as a whole. No law of the combining operation is
needed for the fold itself; by associativity it is the fold of the leaves in document
order, which `foldFrom_eq_foldl` states.
-/

namespace QualifierBindings

namespace AnnotationUse

variable {α β : Type}

/-- The contributions to a parameter after those already folded. The first one is taken
as it is, a later one is the second argument of the combining operation; what does not
bear on the parameter contributes nothing. -/
def foldFrom (combine : α → α → α) (own : Binder → α) (vocabulary : Vocabulary)
    (parameter : String) : Option α → List AnnotationUse → Option α
  | folded, [] => folded
  | folded, use :: rest =>
      let contribution :=
        if vocabulary.classify? use.name = some .aggregate then
          foldFrom combine own vocabulary parameter none (use.contents vocabulary)
        else (use.binderAt? vocabulary parameter).map own
      foldFrom combine own vocabulary parameter (folded.merge combine contribution) rest
termination_by _ annotations => sizeOf annotations
decreasing_by
  · exact sizeOf_contents_lt vocabulary use rest
  · simp only [List.cons.sizeOf_spec]
    omega

def parameterFold (combine : α → α → α) (own : Binder → α) (vocabulary : Vocabulary)
    (parameter : String) (annotations : List AnnotationUse) : Option α :=
  foldFrom combine own vocabulary parameter none annotations

variable {combine : α → α → α} {own : Binder → α} {vocabulary : Vocabulary}
  {parameter : String}

@[simp] theorem foldFrom_nil (folded : Option α)
    : foldFrom combine own vocabulary parameter folded [] = folded := by
  rw [foldFrom]

/-- The first annotation contributes its own binder or the fold of its contents; the
other of the two is nothing. -/
theorem foldFrom_cons (folded : Option α) (use : AnnotationUse) (rest : List AnnotationUse)
    : foldFrom combine own vocabulary parameter folded (use :: rest)
      = foldFrom combine own vocabulary parameter
          ((folded.merge combine ((use.binderAt? vocabulary parameter).map own)).merge combine
            (foldFrom combine own vocabulary parameter none (use.contents vocabulary)))
          rest := by
  rw [foldFrom]
  by_cases aggregate : vocabulary.classify? use.name = some .aggregate
  · simp [aggregate, binderAt?_of_aggregate aggregate]
  · simp [aggregate, contents_of_not_aggregate aggregate]

/-- Leaves that do not bear on the parameter contribute nothing. -/
theorem foldFrom_of_silent {annotations : List AnnotationUse}
    (leaf : ∀ use ∈ annotations, vocabulary.classify? use.name ≠ some .aggregate)
    (silent : ∀ use ∈ annotations, use.binderAt? vocabulary parameter = none)
    (folded : Option α)
    : foldFrom combine own vocabulary parameter folded annotations = folded := by
  induction annotations with
  | nil => simp
  | cons use rest ih =>
      obtain ⟨ownLeaf, laterLeaf⟩ := List.forall_mem_cons.mp leaf
      obtain ⟨ownSilent, laterSilent⟩ := List.forall_mem_cons.mp silent
      rw [foldFrom_cons, contents_of_not_aggregate ownLeaf, ownSilent, Option.map_none,
        foldFrom_nil, Option.merge_none_right, Option.merge_none_right,
        ih laterLeaf laterSilent]

/-- A parameter has a fold exactly when some leaf has a binder for it. -/
theorem isSome_foldFrom (folded : Option α) (annotations : List AnnotationUse)
    : (foldFrom combine own vocabulary parameter folded annotations).isSome
      = (folded.isSome || !(bindersAt vocabulary parameter annotations).isEmpty) := by
  induction annotations using documentInduction vocabulary generalizing folded with
  | nil => simp [bindersAt]
  | cons use rest ihContents ihRest =>
      rw [foldFrom_cons, ihRest, Option.isSome_merge, ihContents, Option.isSome_merge,
        bindersAt_cons]
      cases use.binderAt? vocabulary parameter <;>
        cases bindersAt vocabulary parameter (use.contents vocabulary) <;> simp

/-- What holds of all own contributions, and is kept by combining, holds of the fold. -/
theorem holds_foldFrom {holds : α → Prop} (single : ∀ binder, holds (own binder))
    (kept : ∀ a b, holds a → holds b → holds (combine a b)) (folded : Option α)
    (start : ∀ value ∈ folded, holds value) (annotations : List AnnotationUse)
    : ∀ value ∈ foldFrom combine own vocabulary parameter folded annotations, holds value := by
  have merged {left right : Option α} (first : ∀ value ∈ left, holds value)
      (second : ∀ value ∈ right, holds value)
      : ∀ value ∈ left.merge combine right, holds value := by
    cases left with
    | none => simpa using second
    | some value =>
        cases right with
        | none => simpa using first
        | some other =>
            rw [Option.merge_some_some]
            rintro _ ⟨⟩
            exact kept value other (first value rfl) (second other rfl)
  induction annotations using documentInduction vocabulary generalizing folded with
  | nil => simpa using start
  | cons use rest ihContents ihRest =>
      rw [foldFrom_cons]
      apply ihRest
      refine merged (merged start ?_) (ihContents none (by simp))
      intro value contributed
      obtain ⟨binder, _, rfl⟩ := Option.map_eq_some_iff.mp contributed
      exact single binder

/-- A homomorphism of the combining operations passes through the fold, so a component
of the contributions folds by itself. -/
theorem map_foldFrom {combine' : β → β → β} (f : α → β)
    (hom : ∀ a b, f (combine a b) = combine' (f a) (f b)) (folded : Option α)
    (annotations : List AnnotationUse)
    : (foldFrom combine own vocabulary parameter folded annotations).map f
      = foldFrom combine' (f ∘ own) vocabulary parameter (folded.map f) annotations := by
  have map_merge : ∀ left right : Option α,
      (left.merge combine right).map f = (left.map f).merge combine' (right.map f) := by
    intro left right
    cases left <;> cases right <;> simp [hom]
  induction annotations using documentInduction vocabulary generalizing folded with
  | nil => simp
  | cons use rest ihContents ihRest =>
      rw [foldFrom_cons, foldFrom_cons, ihRest, map_merge, map_merge, ihContents,
        Option.map_map, Option.map_none]

/-- By associativity it does not matter that aggregates are folded as wholes. -/
theorem foldFrom_eq_foldl [Std.Associative combine] (folded : Option α)
    (annotations : List AnnotationUse)
    : foldFrom combine own vocabulary parameter folded annotations
      = ((bindersAt vocabulary parameter annotations).map (fun binder => some (own binder))).foldl
          (Option.merge combine) folded := by
  induction annotations using documentInduction vocabulary generalizing folded with
  | nil => simp [bindersAt]
  | cons use rest ihContents ihRest =>
      rw [foldFrom_cons, ihRest, ihContents, bindersAt_cons]
      -- the contents, folded from nothing, are folded onto what came before them
      rw [← @List.foldl_assoc _ (Option.merge combine), Option.merge_none_right,
        List.map_append, List.map_append, List.foldl_append, List.foldl_append]
      cases use.binderAt? vocabulary parameter <;> simp

end AnnotationUse

end QualifierBindings
