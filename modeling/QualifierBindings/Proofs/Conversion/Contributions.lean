import Mathlib.Data.Finset.Card
import QualifierBindings.Proofs.Conversion.Collected

/-! What the first pass reports. A contribution to a parameter that is not yet bound makes the
bindings grow, one to a bound parameter is reported as combined; nothing else happens to it. So
the reports and the bound parameters together number the binding annotations, at any depth.
-/

namespace QualifierBindings

variable {Q : Type}

namespace NameMap

variable {α : Type}

/-- The names of a map as a set. -/
def nameSet (map : NameMap α) : Finset String :=
  map.names.toFinset

/-- A name is in the set when something is found under it. -/
@[simp] theorem mem_nameSet {map : NameMap α} {name : String}
    : name ∈ map.nameSet ↔ (map.get? name).isSome := by
  rw [nameSet, List.mem_toFinset, mem_names_iff]

/-- A map has as many names as entries. -/
theorem card_nameSet (map : NameMap α) : map.nameSet.card = map.size := by
  rw [nameSet, List.toFinset_card_of_nodup map.nodup_names, names, List.length_map, size]

end NameMap

/-- Whether an event reports a combined contribution. -/
def Event.isCombined : Event Q → Bool
  | .combined _ _ _ _ => true
  | _ => false

namespace Bindings

/-- A merge binds the names of both sides. -/
theorem nameSet_merge (op : Qualifier Q → Qualifier Q → Qualifier Q) (old new : Bindings Q)
    : (merge op old new).nameSet = old.nameSet ∪ new.nameSet := by
  ext name
  simp [get?_merge_eq]

/-- A merge reports the parameters bound on both sides. -/
theorem length_mergeEvents (H : Hierarchy Q) (old new : Bindings Q)
    : (old.mergeEvents H new).length = (old.nameSet ∩ new.nameSet).card := by
  have shared : old.nameSet ∩ new.nameSet
      = (new.names.filter (fun name => (old.get? name).isSome)).toFinset := by
    ext name
    simp [NameMap.mem_names_iff, and_comm]
  rw [shared, List.toFinset_card_of_nodup (new.nodup_names.filter _), NameMap.names,
    List.filter_map, List.length_map, ← List.countP_eq_length_filter, mergeEvents,
    List.length_filterMap_eq_countP]
  simp only [Option.isSome_map, Function.comp_def]

/-- A merge loses no parameter and makes up none: what does not become a new parameter is
reported. -/
theorem length_mergeEvents_add_size (H : Hierarchy Q) (old new : Bindings Q)
    : (old.mergeEvents H new).length + (merge H.join old new).size = old.size + new.size := by
  rw [length_mergeEvents, ← NameMap.card_nameSet, nameSet_merge, Nat.add_comm,
    Finset.card_union_add_card_inter, NameMap.card_nameSet, NameMap.card_nameSet]

/-- What is received is told by as many events as there are names on both sides. -/
theorem length_events_receive (H : Hierarchy Q) (bindings : Bindings Q)
    (new : Option (Bindings Q))
    : (bindings.receive H new).events.length + (new.elim bindings (bindings.merge H.join)).size
      = bindings.size + new.elim 0 NameMap.size := by
  cases new with
  | none => simp [receive]
  | some new => exact length_mergeEvents_add_size H bindings new

end Bindings

namespace Clause

open AnnotationUse

/-- Everything that an annotation contributes is a new parameter or has been reported, given
the same of its contents. -/
theorem length_events_contribution (H : Hierarchy Q) (vocabulary : Vocabulary)
    (use : AnnotationUse) {new : Option (Bindings Q)}
    (ended : (contribution H (ofUse vocabulary use)).outcome = .ok new)
    (inner
      : ∀ collected,
          (collect H .empty (ofUses vocabulary (use.contents vocabulary))).outcome = .ok collected
          → (collect H .empty (ofUses vocabulary (use.contents vocabulary))).events.length
              + collected.size
            = (binderLeaves vocabulary (use.contents vocabulary)).length)
    : (contribution H (ofUse vocabulary use)).events.length + new.elim 0 NameMap.size
      = ([use].filter (binds vocabulary)).length
        + (binderLeaves vocabulary (use.contents vocabulary)).length := by
  have read := reading vocabulary use
  generalize ofUse vocabulary use = clause at read ended ⊢
  cases read with
  | unrelated closed sound noBinder _ | modifier closed sound noBinder _ _
  | brokenModifier closed sound noBinder _ _ _ =>
      have silent := binds_eq_false_of_binderAt? sound noBinder
      rw [contribution] at ended ⊢
      obtain rfl := Except.ok.inj ended
      simp [closed, silent, binderLeaves]
  | binding closed _ _ bound _ =>
      have counted := binds_of_binder?_eq_some bound
      rw [contribution] at ended ⊢
      obtain rfl := Except.ok.inj ended
      simp [closed, counted, binderLeaves]
  | group sound noBinder _ =>
      have silent := binds_eq_false_of_binderAt? sound noBinder
      rw [contribution] at ended ⊢
      obtain ⟨collected, inside, done⟩ := Report.outcome_bind_eq_ok_iff.mp ended
      obtain rfl := Except.ok.inj done
      rw [Report.events_bind_of_ok inside]
      simpa [silent] using inner collected inside
  | brokenBinding _ _ _ _ | brokenGroup _ _ _ =>
      rw [contribution] at ended
      contradiction

/-- After a first pass that succeeds every binding annotation has either made a new parameter
or been reported. -/
theorem length_events_collect (H : Hierarchy Q) (vocabulary : Vocabulary)
    (annotations : List AnnotationUse) (bindings : Bindings Q) {collected : Bindings Q}
    (ended : (collect H bindings (ofUses vocabulary annotations)).outcome = .ok collected)
    : (collect H bindings (ofUses vocabulary annotations)).events.length + collected.size
      = bindings.size + (binderLeaves vocabulary annotations).length := by
  induction annotations using documentInduction vocabulary generalizing bindings collected with
  | nil =>
      rw [ofUses, collect] at ended ⊢
      obtain rfl := Except.ok.inj ended
      simp [binderLeaves]
  | cons use rest ihContents ihRest =>
      rw [ofUses, collect] at ended ⊢
      obtain ⟨new, contributed, goesOn⟩ := Report.outcome_bind_eq_ok_iff.mp ended
      obtain ⟨merged, received, ended⟩ := Report.outcome_bind_eq_ok_iff.mp goesOn
      rw [Report.events_bind_of_ok contributed, Report.events_bind_of_ok received,
        binderLeaves_cons]
      rw [Bindings.outcome_receive] at received
      obtain rfl := Except.ok.inj received
      have own := length_events_contribution H vocabulary use contributed (by
        intro inside done
        simpa using ihContents .empty done)
      have kept := Bindings.length_events_receive H bindings new
      have later := ihRest _ ended
      simp only [List.length_append]
      omega

/-- Receiving tells of combinations only. -/
theorem isCombined_of_mem_events_receive {H : Hierarchy Q} {bindings : Bindings Q}
    {new : Option (Bindings Q)} {event : Event Q}
    (reported : event ∈ (bindings.receive H new).events)
    : event.isCombined = true := by
  cases new with
  | none => simp [Bindings.receive] at reported
  | some new =>
      obtain ⟨entry, _, shared⟩ := List.mem_filterMap.mp reported
      obtain ⟨range, _, rfl⟩ := Option.map_eq_some_iff.mp shared
      rfl

/-- The first pass reports nothing but combined contributions, even when it fails. -/
theorem isCombined_of_mem_events_collect {H : Hierarchy Q} {vocabulary : Vocabulary}
    {annotations : List AnnotationUse} {bindings : Bindings Q} {event : Event Q}
    (reported : event ∈ (collect H bindings (ofUses vocabulary annotations)).events)
    : event.isCombined = true := by
  induction annotations using documentInduction vocabulary generalizing bindings with
  | nil =>
      rw [ofUses, collect] at reported
      simp at reported
  | cons use rest ihContents ihRest =>
      rw [ofUses, collect, Report.mem_events_bind] at reported
      rcases reported with own | ⟨new, _, later⟩
      · have read := reading vocabulary use
        generalize ofUse vocabulary use = clause at read own
        cases read with
        | unrelated _ _ _ _ | modifier _ _ _ _ _ | binding _ _ _ _ _ | brokenModifier _ _ _ _ _ _
        | brokenBinding _ _ _ _ | brokenGroup _ _ _ =>
            rw [contribution] at own
            contradiction
        | group _ _ _ =>
            rw [contribution, Report.mem_events_bind] at own
            rcases own with inside | ⟨_, _, nothing⟩
            · exact ihContents inside
            · contradiction
      · rcases Report.mem_events_bind.mp later with received | ⟨_, _, after⟩
        · exact isCombined_of_mem_events_receive received
        · exact ihRest after

end Clause

end QualifierBindings
