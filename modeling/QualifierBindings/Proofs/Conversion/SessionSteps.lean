import Mathlib.Logic.Relation
import QualifierBindings.Proofs.Annotation.Amendment
import QualifierBindings.Proofs.Conversion.Rearrangement
import QualifierBindings.Session

/-! Sessions that take step after step. Some steps change what is pending but not what it is
converted to: the supported leaves stay the same. A session may go through any number of them and
is asked for the same result at its end.
-/

namespace QualifierBindings

variable {Q : Type}

namespace Session

open AnnotationUse Relation

/-- One step that leaves the supported leaves of what is pending as they are. -/
inductive Idle : Session Q → Session Q → Prop where
  | reversed (session : Session Q)
    : Idle session session.reverse
  | wrapped (session : Session Q) {name : String}
    (aggregate
      : session.converter.vocabulary.classify? (AnnotationUse.new name).name = some .aggregate)
    : Idle session (session.wrap name)
  | pushedAgain (session : Session Q) {use : AnnotationUse} (pending : use ∈ session.pending)
    : Idle session (session.push use)
  | pushedUnsupported (session : Session Q) {use : AnnotationUse}
    (unsupported : session.converter.supports use = false)
    : Idle session (session.push use)
  | movedToFront (session : Session Q) (use : AnnotationUse)
    : Idle (session.push use) (session.pushFront use)

/-- Two sessions convert alike: they have the same converter, the same supported leaves pending,
and malformed aggregates in both or in none.
-/
structure Alike (before after : Session Q) : Prop where
  converter : after.converter = before.converter
  leaves : before.converter.SameLeaves before.pending after.pending
  grouped
    : before.converter.Grouped before.pending ↔ before.converter.Grouped after.pending

/-- Every session converts as itself. -/
theorem Alike.refl (session : Session Q) : Alike session session :=
  ⟨rfl, fun _ => .rfl, .rfl⟩

/-- Sessions that convert alike may be followed by more of them. -/
theorem Alike.trans {first second third : Session Q} (before : Alike first second)
    (after : Alike second third)
    : Alike first third := by
  obtain ⟨converter, leaves, grouped⟩ := after
  rw [before.converter] at converter leaves grouped
  exact ⟨converter, fun use => (before.leaves use).trans (leaves use), before.grouped.trans grouped⟩

/-- What rearranges the annotations that are pending makes a session that converts alike. -/
theorem alike_of_rearranged {converter : Converter Q} {left right : List AnnotationUse}
    (changed : Rearranged converter.vocabulary left right)
    : Alike ⟨converter, left⟩ ⟨converter, right⟩ :=
  ⟨rfl, Converter.sameLeaves_of_rearranged changed, changed.grouped_iff⟩

/-- The aggregate that a session is wrapped in holds what was pending. -/
theorem aggregates_wrap {session : Session Q} {name : String}
    (aggregate
      : session.converter.vocabulary.classify? (AnnotationUse.new name).name = some .aggregate)
    : ((AnnotationUse.new name).withElement "value" (.annotations session.pending)).Aggregates
        session.converter.vocabulary session.pending := by
  refine ⟨aggregate, ?_⟩
  rw [element?_withElement, if_pos rfl]

/-- An annotation that is pending already may be pushed again. -/
theorem rearranged_pushAgain {vocabulary : Vocabulary} {pending : List AnnotationUse}
    {use : AnnotationUse} (member : use ∈ pending)
    : Rearranged vocabulary pending (pending ++ [use]) := by
  obtain ⟨front, back, rfl⟩ := List.append_of_mem member
  -- the earlier one is taken to the front, doubled there, and the copy moved to the end
  have once : (front ++ use :: back).Perm (use :: (front ++ back)) := List.perm_middle
  have twice : (use :: use :: (front ++ back)).Perm (front ++ use :: back ++ [use]) :=
    (once.symm.cons use).trans (List.perm_append_singleton use _).symm
  exact (Rearranged.permuted once).trans
    ((Rearranged.repeated use (front ++ back)).symm.trans (.permuted twice))

/-- An annotation that is not supported may be pushed. -/
theorem alike_pushUnsupported (session : Session Q) {use : AnnotationUse}
    (unsupported : session.converter.supports use = false)
    : Alike session (session.push use) := by
  have leaf : session.converter.vocabulary.classify? use.name ≠ some .aggregate :=
    Converter.not_aggregate_of_not_supports unsupported
  have own : document session.converter.vocabulary [use] = [use] := document_eq_self (by simpa)
  refine ⟨rfl, fun other => ?_, ?_⟩
  · have silent : (leaves session.converter.vocabulary [use]).filter session.converter.supports
        = [] := by
      simp [leaves, own, unsupported]
    rw [push, Converter.supportedLeaves, Converter.supportedLeaves, leaves_append,
      List.filter_append, silent, List.append_nil]
  · simp only [push, Converter.Grouped, document_append, own, List.forall_mem_append,
      List.forall_mem_singleton]
    exact (and_iff_left (fun aggregate => absurd aggregate leaf)).symm

/-- One step of this kind makes a session that converts alike. -/
theorem Idle.alike {before after : Session Q} (step : Idle before after)
    : Alike before after := by
  cases step with
  | reversed _ =>
      exact alike_of_rearranged (.permuted (List.reverse_perm before.pending).symm)
  | wrapped _ aggregate =>
      have expanded := Rearranged.expanded (aggregates_wrap aggregate) []
      rw [List.append_nil] at expanded
      exact alike_of_rearranged expanded.symm
  | pushedAgain _ pending => exact alike_of_rearranged (rearranged_pushAgain pending)
  | pushedUnsupported _ unsupported => exact alike_pushUnsupported before unsupported
  | movedToFront session use =>
      exact alike_of_rearranged (.permuted (List.perm_append_singleton use session.pending))

/-- So do any number of them, by induction on the steps. -/
theorem alike_of_idle_steps {before after : Session Q} (steps : ReflTransGen Idle before after)
    : Alike before after := by
  induction steps with
  | refl => exact .refl before
  | tail _ last ih => exact ih.trans last.alike

/-- Under the laws of the join, a session with well-formed aggregates has the same result before
and after such steps, or no result on both sides.
-/
theorem outcome_eq_ok_iff_of_idle_steps {before after : Session Q}
    (steps : ReflTransGen Idle before after) (laws : before.converter.hierarchy.JoinLaws)
    (grouped : before.converter.Grouped before.pending) (result : Option (Bindings Q))
    : before.outcome = .ok result ↔ after.outcome = .ok result := by
  have alike := alike_of_idle_steps steps
  rw [outcome, outcome, alike.converter]
  exact Converter.sameResult_of_sameLeaves laws grouped (alike.grouped.mp grouped) alike.leaves
    result

end Session

end QualifierBindings
