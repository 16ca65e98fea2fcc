import QualifierBindings.Conversion.Collection
import QualifierBindings.Proofs.Annotation.ParameterFold
import QualifierBindings.Proofs.Conversion.ClauseReading

/-! The first pass over annotations. It ends with the error of the first malformed
annotation in document order; without one it ends with bindings that hold at each
parameter the fold of its contributions, for any joining rule.
-/

namespace QualifierBindings

variable {Q : Type}

namespace Bindings

/-- A merge combines the ranges of each parameter, the older one as first argument. -/
theorem get?_merge_eq (op : Qualifier Q → Qualifier Q → Qualifier Q) (old new : Bindings Q)
    (name : String)
    : (merge op old new).get? name
      = (old.get? name).merge (Range.pointwise op) (new.get? name) := by
  rw [get?_merge]
  cases new.get? name <;> cases old.get? name <;> rfl

theorem outcome_receive (H : Hierarchy Q) (bindings : Bindings Q) (new : Option (Bindings Q))
    : (bindings.receive H new).outcome = .ok (new.elim bindings (bindings.merge H.join)) := by
  cases new <;> rfl

end Bindings

namespace Clause

open AnnotationUse

/-- The first pass handles the first clause and goes on with the rest. -/
theorem outcome_collect_cons (H : Hierarchy Q) (bindings : Bindings Q) (clause : Clause)
    (rest : List Clause)
    : (collect H bindings (clause :: rest)).outcome
      = (contribution H clause).outcome.bind (fun new =>
          (collect H (new.elim bindings (bindings.merge H.join)) rest).outcome) := by
  rw [collect, Report.outcome_bind]
  congr 1
  funext new
  rw [Report.outcome_bind, Bindings.outcome_receive]
  rfl

theorem outcome_contribution_group (H : Hierarchy Q) (clauses : List Clause)
    : (contribution H (.group clauses)).outcome
      = (collect H .empty clauses).outcome.map some := by
  rw [contribution, Report.outcome_bind]
  rfl

/-- A sound annotation, whose contents can be collected, contributes its own range or
the fold of its contents. -/
theorem contribution_of_sound (H : Hierarchy Q) (vocabulary : Vocabulary)
    (use : AnnotationUse) (sound : use.bindingFault? vocabulary = none)
    (inner
      : ∃ bindings,
          (collect H .empty (ofUses vocabulary (use.contents vocabulary))).outcome = .ok bindings
          ∧ ∀ parameter,
              bindings.get? parameter
                = foldFrom (Range.pointwise H.join) (Binder.range H.toGroundLattice) vocabulary
                    parameter none (use.contents vocabulary))
    : ∃ new,
        (contribution H (ofUse vocabulary use)).outcome = .ok new
        ∧ ∀ (bindings : Bindings Q) (parameter : String),
            (new.elim bindings (bindings.merge H.join)).get? parameter
              = ((bindings.get? parameter).merge (Range.pointwise H.join)
                  ((use.binderAt? vocabulary parameter).map
                    (Binder.range H.toGroundLattice))).merge (Range.pointwise H.join)
                  (foldFrom (Range.pointwise H.join) (Binder.range H.toGroundLattice) vocabulary
                    parameter none (use.contents vocabulary)) := by
  have read := reading vocabulary use
  generalize ofUse vocabulary use = clause at read
  cases read with
  | unrelated closed _ noBinder _ | modifier closed _ noBinder _ _
  | brokenModifier closed _ noBinder _ _ _ =>
      refine ⟨none, by rw [contribution]; rfl, ?_⟩
      intro bindings parameter
      simp [closed, noBinder]
  | @binding target binder closed _ targeted bound _ =>
      refine ⟨some (.singleton target (binder.range H.toGroundLattice)),
        by rw [contribution]; rfl, ?_⟩
      intro bindings parameter
      rw [Option.elim_some, Bindings.get?_merge_eq, closed, foldFrom_nil,
        Option.merge_none_right, binderAt?, targeted, bound]
      by_cases same : parameter = target
      · simp [NameMap.singleton, same]
      · simp [NameMap.singleton, same, Ne.symm same]
  | group _ noBinder _ =>
      obtain ⟨collected, ended, folded⟩ := inner
      refine ⟨some collected, by rw [outcome_contribution_group, ended]; rfl, ?_⟩
      intro bindings parameter
      rw [Option.elim_some, Bindings.get?_merge_eq, folded, noBinder, Option.map_none,
        Option.merge_none_right]
  | brokenBinding _ _ fault _ | brokenGroup _ fault _ =>
      rw [sound] at fault
      contradiction

/-- Without a malformed annotation the first pass folds the contributions to each
parameter onto its range so far. -/
theorem outcome_collect_of_sound (H : Hierarchy Q) (vocabulary : Vocabulary)
    (annotations : List AnnotationUse) (bindings : Bindings Q)
    (sound : ∀ use ∈ document vocabulary annotations, use.bindingFault? vocabulary = none)
    : ∃ collected,
        (collect H bindings (ofUses vocabulary annotations)).outcome = .ok collected
        ∧ ∀ parameter,
            collected.get? parameter
              = foldFrom (Range.pointwise H.join) (Binder.range H.toGroundLattice) vocabulary
                  parameter (bindings.get? parameter) annotations := by
  induction annotations using documentInduction vocabulary generalizing bindings with
  | nil =>
      refine ⟨bindings, by rw [ofUses, collect]; rfl, ?_⟩
      intro parameter
      rw [foldFrom_nil]
  | cons use rest ihContents ihRest =>
      obtain ⟨soundUse, soundContents, soundRest⟩ := forall_mem_document_cons.mp sound
      -- an aggregate collects from nothing, the rest goes on from what is bound so far
      have inner := ihContents .empty soundContents
      obtain ⟨new, contributed, received⟩ :=
        contribution_of_sound H vocabulary use soundUse inner
      obtain ⟨collected, ended, folded⟩ :=
        ihRest (new.elim bindings (bindings.merge H.join)) soundRest
      refine ⟨collected, ?_, ?_⟩
      · rw [ofUses, outcome_collect_cons, contributed]
        exact ended
      · intro parameter
        rw [folded, foldFrom_cons, received]

theorem contribution_of_fault (H : Hierarchy Q) (vocabulary : Vocabulary)
    (use : AnnotationUse) {error : ConversionError}
    (fault : use.bindingFault? vocabulary = some error)
    : (contribution H (ofUse vocabulary use)).outcome = .error error := by
  have read := reading vocabulary use
  generalize ofUse vocabulary use = clause at read
  cases read with
  | unrelated _ sound _ _ | binding _ sound _ _ _ | modifier _ sound _ _ _
  | group sound _ _ | brokenModifier _ sound _ _ _ _ =>
      rw [sound] at fault
      contradiction
  | brokenBinding _ _ found _ | brokenGroup _ found _ =>
      rw [contribution]
      exact congrArg Except.error (Option.some.inj (found.symm.trans fault))

/-- An aggregate with malformed contents contributes their error. -/
theorem contribution_of_inner_fault (H : Hierarchy Q) (vocabulary : Vocabulary)
    (use : AnnotationUse) {error : ConversionError}
    (sound : use.bindingFault? vocabulary = none)
    (inner
      : (collect H .empty (ofUses vocabulary (use.contents vocabulary))).outcome = .error error)
    : (contribution H (ofUse vocabulary use)).outcome = .error error := by
  have read := reading vocabulary use
  generalize ofUse vocabulary use = clause at read
  cases read with
  | unrelated closed _ _ _ | binding closed _ _ _ _ | modifier closed _ _ _ _
  | brokenBinding _ closed _ _ | brokenModifier closed _ _ _ _ _ =>
      rw [closed, ofUses, collect] at inner
      cases inner
  | group _ _ _ =>
      rw [outcome_contribution_group, inner]
      rfl
  | brokenGroup _ fault _ =>
      rw [sound] at fault
      contradiction

/-- The first malformed annotation in document order ends the first pass, whatever is
bound already. -/
theorem outcome_collect_of_fault (H : Hierarchy Q) (vocabulary : Vocabulary)
    (annotations : List AnnotationUse) (bindings : Bindings Q) {error : ConversionError}
    (fault
      : (document vocabulary annotations).findSome? (bindingFault? vocabulary) = some error)
    : (collect H bindings (ofUses vocabulary annotations)).outcome = .error error := by
  induction annotations using documentInduction vocabulary generalizing bindings with
  | nil => simp at fault
  | cons use rest ihContents ihRest =>
      rw [ofUses, outcome_collect_cons]
      rw [document_cons, List.findSome?_cons] at fault
      cases own : use.bindingFault? vocabulary with
      | some found =>
          simp only [own] at fault
          rw [contribution_of_fault H vocabulary use (own.trans fault)]
          rfl
      | none =>
          simp only [own, List.findSome?_append, Option.or_eq_some_iff] at fault
          rcases fault with inside | ⟨inside, later⟩
          · rw [contribution_of_inner_fault H vocabulary use own (ihContents .empty inside)]
            rfl
          -- the contents are sound, so the first annotation contributes and the rest fails
          · have inner := outcome_collect_of_sound H vocabulary (use.contents vocabulary) .empty
              (List.findSome?_eq_none_iff.mp inside)
            obtain ⟨new, contributed, _⟩ := contribution_of_sound H vocabulary use own inner
            rw [contributed]
            exact ihRest _ later

end Clause

end QualifierBindings
