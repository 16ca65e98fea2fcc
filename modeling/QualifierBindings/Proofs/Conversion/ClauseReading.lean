import QualifierBindings.Proofs.Annotation.Roles

/-! The clause of an annotation against what the annotation itself says. `Reading`
lists, for each form of clause, all that is known of an annotation whose clause has
that form; `reading` says that the clause of every annotation is such a reading, so
the passes over clauses can be followed on annotations by cases on it.
-/

namespace QualifierBindings

open AnnotationUse

inductive Reading (vocabulary : Vocabulary) (use : AnnotationUse) : Clause → Prop where
  | unrelated
    (closed : use.contents vocabulary = [])
    (sound : use.bindingFault? vocabulary = none)
    (noBinder : ∀ parameter, use.binderAt? vocabulary parameter = none)
    (noModifier : use.modifier? vocabulary = none)
    : Reading vocabulary use .unrelated
  | binding {target : String} {binder : Binder}
    (closed : use.contents vocabulary = [])
    (sound : use.bindingFault? vocabulary = none)
    (targeted : use.target? = some target)
    (bound : use.binder? vocabulary = some binder)
    (noModifier : use.modifier? vocabulary = none)
    : Reading vocabulary use (.binding target binder)
  | modifier {kind : Modifier} {target : String}
    (closed : use.contents vocabulary = [])
    (sound : use.bindingFault? vocabulary = none)
    (noBinder : ∀ parameter, use.binderAt? vocabulary parameter = none)
    (targeted : use.target? = some target)
    (modifies : use.modifier? vocabulary = some kind)
    : Reading vocabulary use (.modifier kind target)
  | group
    (sound : use.bindingFault? vocabulary = none)
    (noBinder : ∀ parameter, use.binderAt? vocabulary parameter = none)
    (noModifier : use.modifier? vocabulary = none)
    : Reading vocabulary use (.group (Clause.ofUses vocabulary (use.contents vocabulary)))
  | brokenBinding {error : ConversionError}
    (leaf : vocabulary.classify? use.name ≠ some .aggregate)
    (closed : use.contents vocabulary = [])
    (fault : use.bindingFault? vocabulary = some error)
    (noModifier : use.modifier? vocabulary = none)
    : Reading vocabulary use (.brokenBinding error)
  | brokenModifier {kind : Modifier} {error : ConversionError}
    (closed : use.contents vocabulary = [])
    (sound : use.bindingFault? vocabulary = none)
    (noBinder : ∀ parameter, use.binderAt? vocabulary parameter = none)
    (untargeted : use.target? = none)
    (modifies : use.modifier? vocabulary = some kind)
    (fault : use.targetFault? = some error)
    : Reading vocabulary use (.brokenModifier kind error)
  | brokenGroup {error : ConversionError}
    (aggregate : vocabulary.classify? use.name = some .aggregate)
    (fault : use.bindingFault? vocabulary = some error)
    (noModifier : use.modifier? vocabulary = none)
    : Reading vocabulary use (.brokenGroup error)

namespace Clause

/-- The reading of an element is found under its name. -/
theorem get?_ofElements (vocabulary : Vocabulary) (use : AnnotationUse) (element : String)
    : (ofElements vocabulary use.elements).get? element
      = (use.element? element).map (ofValue vocabulary) := by
  rw [ofElements_eq_mapValues, Entries.get?_mapValues]
  rfl

/-- A target can be read or has a fault, and the reading tells which. -/
theorem target_cases (vocabulary : Vocabulary) (use : AnnotationUse)
    : (∃ parameter,
        target use.name (ofElements vocabulary use.elements) = .ok parameter
        ∧ use.target? = some parameter ∧ use.targetFault? = none)
      ∨ ∃ error,
          target use.name (ofElements vocabulary use.elements) = .error error
          ∧ use.target? = none ∧ use.targetFault? = some error := by
  unfold target Elements.textOr AnnotationUse.target? targetFault?
  rw [get?_ofElements]
  cases use.element? "target" with
  | none => exact Or.inl ⟨_, rfl, rfl, rfl⟩
  | some value =>
      cases value with
      | text parameter => exact Or.inl ⟨parameter, rfl, rfl, rfl⟩
      | annotations items => exact Or.inr ⟨_, rfl, rfl, rfl⟩

/-- A binding annotation whose binder is sound is read as a binding or, when its target
is faulty, as a broken one. -/
theorem reading_ofBinder {vocabulary : Vocabulary} {use : AnnotationUse} {binder : Binder}
    (leaf : vocabulary.classify? use.name ≠ some .aggregate)
    (fault : use.bindingFault? vocabulary = use.targetFault?)
    (bound : use.binder? vocabulary = some binder)
    (noModifier : use.modifier? vocabulary = none)
    : Reading vocabulary use
        (ofBinder use.name (ofElements vocabulary use.elements) (.ok binder)) := by
  have closed := contents_of_not_aggregate leaf
  rcases target_cases vocabulary use with ⟨parameter, found, targeted, sound⟩
    | ⟨error, found, _, faulty⟩
  · simp only [ofBinder, found]
    exact .binding closed (fault.trans sound) targeted bound noModifier
  · simp only [ofBinder, found]
    exact .brokenBinding leaf closed (fault.trans faulty) noModifier

/-- A modifier annotation is read as a modifier or, when its target is faulty, as a
broken one. -/
theorem reading_ofModifier {vocabulary : Vocabulary} {use : AnnotationUse} {kind : Modifier}
    (closed : use.contents vocabulary = [])
    (sound : use.bindingFault? vocabulary = none)
    (noBinder : use.binder? vocabulary = none)
    (modifies : use.modifier? vocabulary = some kind)
    : Reading vocabulary use
        (ofModifier use.name (ofElements vocabulary use.elements) kind) := by
  have unbound : ∀ parameter, use.binderAt? vocabulary parameter = none := by
    simp [binderAt?, noBinder]
  rcases target_cases vocabulary use with ⟨parameter, found, targeted, _⟩
    | ⟨error, found, untargeted, faulty⟩
  · simp only [ofModifier, found]
    exact .modifier closed sound unbound targeted modifies
  · simp only [ofModifier, found]
    exact .brokenModifier closed sound unbound untargeted modifies faulty

/-- A variable's name is read before its target. -/
theorem reading_ofVariable {vocabulary : Vocabulary} {use : AnnotationUse}
    (isVar : vocabulary.classify? use.name = some .var)
    : Reading vocabulary use
        (ofBinder use.name (ofElements vocabulary use.elements)
          ((Elements.requiredText use.name (ofElements vocabulary use.elements) "value").map
            .named)) := by
  have leaf : vocabulary.classify? use.name ≠ some .aggregate := by simp [isVar]
  have closed := contents_of_not_aggregate leaf
  have noModifier : use.modifier? vocabulary = none := by simp [modifier?, isVar]
  rw [Elements.requiredText, get?_ofElements]
  cases named : use.element? "value" with
  | none =>
      exact .brokenBinding leaf closed (by simp [bindingFault?, isVar, named]) noModifier
  | some value =>
      cases value with
      | text name =>
          refine reading_ofBinder leaf ?_ ?_ noModifier
          · simp [bindingFault?, isVar, named]
          · simp [binder?, isVar, textElement?, named, ElementValue.text?]
      | annotations items =>
          exact .brokenBinding leaf closed (by simp [bindingFault?, isVar, named]) noModifier

/-- An aggregate is read as the group of its contents, or as broken without them. -/
theorem reading_ofAggregate {vocabulary : Vocabulary} {use : AnnotationUse}
    (aggregate : vocabulary.classify? use.name = some .aggregate)
    : Reading vocabulary use (ofAggregate use.name (ofElements vocabulary use.elements)) := by
  have noModifier := modifier?_of_aggregate aggregate
  rw [ofAggregate, Elements.requiredNested, get?_ofElements]
  cases held : use.element? "value" with
  | none => exact .brokenGroup aggregate (by simp [bindingFault?, aggregate, held]) noModifier
  | some value =>
      cases value with
      | text name =>
          exact .brokenGroup aggregate (by simp [bindingFault?, aggregate, held]) noModifier
      | annotations items =>
          have inside : use.contents vocabulary = items := by
            rw [contents_of_aggregate aggregate, nested?_eq_some_iff.mpr held]
            rfl
          have read := Reading.group (by simp [bindingFault?, aggregate, held])
            (fun _ => binderAt?_of_aggregate aggregate) noModifier
          rw [inside] at read
          exact read

/-- Every annotation is read in one of these ways, by cases on its marker and its elements. -/
theorem reading (vocabulary : Vocabulary) (use : AnnotationUse)
    : Reading vocabulary use (ofUse vocabulary use) := by
  rw [ofUse_eq_assemble, assemble]
  cases found : vocabulary.classify? use.name with
  | none =>
      exact .unrelated (contents_of_not_aggregate (by simp [found]))
        (by simp [bindingFault?, found]) (by simp [binderAt?, binder?, found])
        (by simp [modifier?, found])
  | some marker =>
      cases marker with
      | aggregate => exact reading_ofAggregate found
      | var => exact reading_ofVariable found
      | tainted | untainted | polyTainting | wild =>
          exact reading_ofBinder (by simp [found])
            (by simp [bindingFault?, found]) (by simp [binder?, found])
            (by simp [modifier?, found])
      | extendsBound | superBound =>
          exact reading_ofModifier (contents_of_not_aggregate (by simp [found]))
            (by simp [bindingFault?, found]) (by simp [binder?, found])
            (by simp [modifier?, found])
      | taintingParam =>
          exact .unrelated (contents_of_not_aggregate (by simp [found]))
            (by simp [bindingFault?, found]) (by simp [binderAt?, binder?, found])
            (by simp [modifier?, found])

end Clause

end QualifierBindings
