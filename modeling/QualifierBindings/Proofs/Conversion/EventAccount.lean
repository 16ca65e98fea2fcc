import QualifierBindings.Proofs.Conversion.Announcements
import QualifierBindings.Proofs.Conversion.Contributions
import QualifierBindings.Proofs.Conversion.Outcome

/-! The log records of a whole conversion as an account of its annotations. Each binding leaf
either makes a parameter of the result or stands behind one record of a combination, each
modifier leaf is announced by one record, and one last record closes a conversion that succeeds.
-/

namespace QualifierBindings

variable {Q : Type}

namespace LogRecord

def field? (record : LogRecord) (name : String) : Option FieldValue :=
  Entries.get? name record.fields

/-- Whether a record reports that a bound of the given parameter has been opened. -/
def adjusts (parameter : String) (record : LogRecord) : Bool :=
  record.message = "adjusted bounds" && record.field? "parameter" = some (.text parameter)

/-- A record announces a modifier: what it is, its target, and whether it has opened a bound
or has been ignored because nothing binds the target. -/
def announces (vocabulary : Vocabulary) (bound : String → Bool) (use : AnnotationUse)
    (record : LogRecord) : Prop :=
  ∃ kind target,
    use.modifier? vocabulary = some kind
    ∧ use.target? = some target
    ∧ record.field? "modifier" = some (.display kind.text)
    ∧ record.field? "parameter" = some (.text target)
    ∧ if bound target then record.level = .debug ∧ record.message = "adjusted bounds"
      else
        record.level = .warn
        ∧ record.message = "ignoring bound modifier for a parameter with no base declaration"

/-- The record that closes a conversion. -/
def closing (annotations parameters : Nat) : LogRecord :=
  { level := .debug, target := Event.target, message := "converted qualifier parameters",
    fields := [("annotations", .count annotations), ("parameters", .count parameters)] }

end LogRecord

namespace Event

/-- Combinations announce no adjusted range. -/
theorem lastAdjusted?_of_isCombined {events : List (Event Q)}
    (combined : ∀ event ∈ events, event.isCombined = true) (parameter : String)
    : lastAdjusted? parameter events = none := by
  have silent : events.filterMap (adjustedRange? parameter) = [] := by
    apply List.filterMap_eq_nil_iff.mpr
    intro event member
    have kind := combined event member
    cases event with
    | combined _ _ _ _ => rfl
    | adjusted _ _ _ | ignored _ _ | converted _ _ => simp [isCombined] at kind
  simp [lastAdjusted?, silent]

/-- A combination is not the end of a conversion. -/
theorem isConverted_of_isCombined {event : Event Q} (combined : event.isCombined = true)
    : event.isConverted = false := by
  cases event with
  | combined _ _ _ _ => rfl
  | adjusted _ _ _ | ignored _ _ | converted _ _ => simp [isCombined] at combined

section Record

variable [ToString Q]

/-- Combinations are recorded at the finest level, all with one message. -/
theorem record_of_isCombined {event : Event Q} (combined : event.isCombined = true)
    : event.record.level = .trace ∧ event.record.message = "combined wildcards" := by
  cases event with
  | combined _ _ _ _ => exact ⟨rfl, rfl⟩
  | adjusted _ _ _ | ignored _ _ | converted _ _ => simp [isCombined] at combined

/-- Only the end of a conversion is recorded with its message. -/
theorem message_record_of_not_isConverted {event : Event Q} (underway : event.isConverted = false)
    : event.record.message ≠ "converted qualifier parameters" := by
  cases event with
  | combined _ _ _ _ | adjusted _ _ _ | ignored _ _ => simp [record]
  | converted _ _ => simp [isConverted] at underway

/-- The record of an adjustment names the parameter that is adjusted. -/
theorem adjusts_record (parameter : String) (event : Event Q)
    : event.record.adjusts parameter = (event.adjustedRange? parameter).isSome := by
  cases event with
  | adjusted kind target range =>
      by_cases same : target = parameter <;>
        simp [record, LogRecord.adjusts, LogRecord.field?, Entries.get?, adjustedRange?, same]
  | combined _ _ _ _ | ignored _ _ | converted _ _ =>
      simp [record, LogRecord.adjusts, adjustedRange?]

/-- The record of an adjustment shows the range that it leaves. -/
theorem field?_record_of_adjustedRange? {parameter : String} {event : Event Q} {range : Range Q}
    (adjusted : event.adjustedRange? parameter = some range)
    : event.record.field? "adjusted" = some (.display range.text) := by
  cases event with
  | adjusted kind target reported =>
      simp only [adjustedRange?, Option.ite_none_right_eq_some, Option.some.injEq] at adjusted
      obtain ⟨_, rfl⟩ := adjusted
      simp [record, LogRecord.field?, Entries.get?]
  | combined _ _ _ _ | ignored _ _ | converted _ _ => simp [adjustedRange?] at adjusted

/-- The last record of an adjustment of a parameter displays the range last reported for it. -/
theorem lastAdjusted?_of_record {parameter : String} {events : List (Event Q)}
    {last : LogRecord}
    (reported
      : ((events.map record).filter (LogRecord.adjusts parameter)).getLast? = some last)
    : ∃ range,
        lastAdjusted? parameter events = some range
        ∧ last.field? "adjusted" = some (.display range.text) := by
  have selects : LogRecord.adjusts parameter ∘ record
      = fun event : Event Q => (event.adjustedRange? parameter).isSome := by
    funext event
    exact adjusts_record parameter event
  rw [List.filter_map, selects, List.getLast?_map, Option.map_eq_some_iff] at reported
  obtain ⟨event, final, rfl⟩ := reported
  obtain ⟨earlier, split⟩ := List.getLast?_eq_some_iff.mp final
  have member : event ∈ events.filter (fun event => (event.adjustedRange? parameter).isSome) := by
    simp [split]
  obtain ⟨range, adjusted⟩ := Option.isSome_iff_exists.mp (List.mem_filter.mp member).2
  refine ⟨range, ?_, field?_record_of_adjustedRange? adjusted⟩
  -- the other events report no range, so they may be left out
  have same : events.filterMap (adjustedRange? parameter)
      = (earlier ++ [event]).filterMap (adjustedRange? parameter) := by
    rw [← split, List.filterMap_filter]
    congr 1
    funext other
    cases other.adjustedRange? parameter <;> rfl
  simp [lastAdjusted?, same, adjusted]

end Record

end Event

/-- What announces a modifier as an event announces it as a record. -/
theorem Announces.record [ToString Q] {vocabulary : Vocabulary} {bound : String → Bool}
    {use : AnnotationUse} {event : Event Q} (announced : Announces vocabulary bound use event)
    : event.record.announces vocabulary bound use := by
  cases announced with
  | adjusted range modifies targeted based =>
      refine ⟨_, _, modifies, targeted, ?_⟩
      simp [Event.record, LogRecord.field?, Entries.get?, based]
  | ignored modifies targeted baseless =>
      refine ⟨_, _, modifies, targeted, ?_⟩
      simp [Event.record, LogRecord.field?, Entries.get?, baseless]

namespace AnnotationUse

/-- The parameters that some leaf binds. -/
def boundParameters (vocabulary : Vocabulary) (annotations : List AnnotationUse)
    : Finset String :=
  ((binderLeaves vocabulary annotations).filterMap target?).toFinset

/-- The bound parameters are those that a leaf binds. -/
theorem mem_boundParameters {vocabulary : Vocabulary} {annotations : List AnnotationUse}
    {parameter : String}
    : parameter ∈ boundParameters vocabulary annotations
      ↔ isBound vocabulary annotations parameter = true := by
  simp only [boundParameters, binderLeaves, List.mem_toFinset, List.mem_filterMap,
    List.mem_filter, isBound_iff, and_assoc]

/-- Bindings with the bound parameters have their names. -/
theorem nameSet_eq_boundParameters {vocabulary : Vocabulary} {annotations : List AnnotationUse}
    {bindings : Bindings Q}
    (bound
      : (fun parameter => (bindings.get? parameter).isSome) = isBound vocabulary annotations)
    : bindings.nameSet = boundParameters vocabulary annotations := by
  ext parameter
  rw [NameMap.mem_nameSet, mem_boundParameters, ← bound]

end AnnotationUse

namespace Converter

open AnnotationUse GroundLattice

/-- Without bindings there is no answer. -/
theorem size_eq_zero_iff (bindings : Bindings Q) : bindings.size = 0 ↔ answer bindings = none := by
  simp [answer, NameMap.size, NameMap.isEmpty]

/-- The answer has as many parameters as the bindings it is made of. -/
theorem size_answer (bindings : Bindings Q)
    : (answer bindings).elim 0 NameMap.size = bindings.size := by
  cases answered : answer bindings with
  | none => exact ((size_eq_zero_iff bindings).mpr answered).symm
  | some others =>
      rw [eq_of_answer_eq_some answered]
      rfl

/-- The reports of a conversion that succeeds are those of its passes and a last one. -/
theorem events_convert_of_ok {converter : Converter Q} {annotations : List AnnotationUse}
    {collected : Bindings Q} {processed : Bool}
    (ended
      : (Clause.collect converter.hierarchy .empty
          (Clause.ofUses converter.vocabulary annotations)).outcome = .ok collected)
    (adjusted
      : (Clause.adjustAll converter.hierarchy.toGroundLattice converter.missingBase collected
          (Clause.ofUses converter.vocabulary annotations)).outcome = .ok processed)
    : (converter.convert annotations).events
      = (Clause.collect converter.hierarchy .empty
            (Clause.ofUses converter.vocabulary annotations)).events
        ++ (Clause.adjustAll converter.hierarchy.toGroundLattice converter.missingBase collected
            (Clause.ofUses converter.vocabulary annotations)).events
        ++ [.converted annotations.length
            (Clause.adjustAll converter.hierarchy.toGroundLattice converter.missingBase collected
              (Clause.ofUses converter.vocabulary annotations)).bindings.size] := by
  have second : (converter.adjusted collected
      (Clause.ofUses converter.vocabulary annotations)).outcome
      = .ok (Clause.adjustAll converter.hierarchy.toGroundLattice converter.missingBase collected
          (Clause.ofUses converter.vocabulary annotations)).bindings := by
    rw [Converter.adjusted, adjusted]
    rfl
  rw [convert, clauses, Report.events_bind_of_ok ended, Report.events_bind_of_ok second,
    List.append_assoc]
  rfl

/-- A conversion that fails does not report that it is over. -/
theorem isConverted_of_convert_eq_error {converter : Converter Q}
    {annotations : List AnnotationUse} {error : ConversionError}
    (failed : (converter.convert annotations).outcome = .error error) {event : Event Q}
    (reported : event ∈ (converter.convert annotations).events)
    : event.isConverted = false := by
  rw [convert, Report.mem_events_bind] at reported
  rcases reported with first | ⟨collected, ended, reported⟩
  · exact Event.isConverted_of_isCombined (Clause.isCombined_of_mem_events_collect first)
  rcases Report.mem_events_bind.mp reported with second | ⟨bindings, adjusted, _⟩
  · exact (Clause.reported_adjustAll _ _ _ _).underway event second
  · -- both passes have succeeded, so the conversion cannot fail
    rw [convert, Report.outcome_bind, ended] at failed
    simp only [Except.bind, Report.outcome_bind, adjusted] at failed
    contradiction

/-- The reports of a conversion that succeeds: combinations, which together with the bound
parameters make up the binding leaves; announcements of the modifier leaves; and the end. The
ranges of the result are those reported last. -/
theorem events_of_convert_eq_ok {converter : Converter Q} {annotations : List AnnotationUse}
    {result : Option (Bindings Q)}
    (converted : (converter.convert annotations).outcome = .ok result)
    : ∃ (combined announced : List (Event Q)) (bindings : Bindings Q),
        (converter.convert annotations).events
          = combined ++ announced ++ [.converted annotations.length bindings.size]
        ∧ (∀ event ∈ combined, event.isCombined = true)
        ∧ combined.length + bindings.size
          = (binderLeaves converter.vocabulary annotations).length
        ∧ List.Forall₂
            (Announces converter.vocabulary (isBound converter.vocabulary annotations))
            (modifierLeaves converter.vocabulary annotations) announced
        ∧ result = answer bindings
        ∧ bindings.nameSet = boundParameters converter.vocabulary annotations
        ∧ ∀ parameter range,
            Event.lastAdjusted? parameter (converter.convert annotations).events = some range
            → bindings.get? parameter = some range := by
  obtain ⟨sound, accepted⟩ := accepted_of_convert_eq_ok converted
  obtain ⟨collected, ended, _, bound⟩ := collected_of_sound converter annotations sound
  rw [← bound] at accepted
  have opens := Clause.opens_adjustAll_of_accepted converter.hierarchy.toGroundLattice
    converter.missingBase converter.vocabulary annotations collected sound accepted
  have announced := Clause.announces_adjustAll converter.hierarchy.toGroundLattice
    converter.missingBase converter.vocabulary annotations collected sound accepted
  obtain ⟨processed, adjusted⟩ := opens.ended
  have combined : ∀ event ∈ (Clause.collect converter.hierarchy .empty
      (Clause.ofUses converter.vocabulary annotations)).events, event.isCombined = true :=
    fun _ reported => Clause.isCombined_of_mem_events_collect reported
  have parts := events_convert_of_ok ended adjusted
  -- the second pass keeps the bound parameters, so it keeps their number
  have named := nameSet_eq_boundParameters (opens.bound.trans bound)
  have counted := Clause.length_events_collect _ _ _ _ ended
  rw [NameMap.size_empty, Nat.zero_add, ← NameMap.card_nameSet collected,
    nameSet_eq_boundParameters bound, ← named, NameMap.card_nameSet] at counted
  rw [bound] at announced
  refine ⟨_, _, _, parts, combined, counted, announced, ?_, named, ?_⟩
  · rw [outcome_convert, ended] at converted
    simp only [Except.bind, adjusted] at converted
    exact (Except.ok.inj converted).symm
  · intro parameter range last
    have told := (Clause.reported_adjustAll converter.hierarchy.toGroundLattice
      converter.missingBase collected (Clause.ofUses converter.vocabulary annotations)).told
    rw [parts, Event.lastAdjusted?_append, Event.lastAdjusted?_append,
      Event.lastAdjusted?_of_isCombined combined, Option.or_none] at last
    rw [told]
    exact Option.or_eq_some_iff.mpr (.inl last)

/-- The log records of a conversion account for its annotations. When it succeeds, the leaves
that bind beyond the first of each parameter are as many as the records of combinations, which
come first; then each modifier leaf has its record, in document order; then one record closes
the conversion and counts the parameters of the result. The last record on the bounds of a
parameter displays its final range. A conversion that fails has no closing record. -/
theorem records_convert_account [ToString Q] (converter : Converter Q)
    (annotations : List AnnotationUse)
    : (∀ result,
          (converter.convert annotations).outcome = .ok result
          → ∃ combined announced : List LogRecord,
              (converter.convert annotations).events.map Event.record
                = combined ++ announced
                  ++ [.closing annotations.length
                      (boundParameters converter.vocabulary annotations).card]
              ∧ combined.length + (boundParameters converter.vocabulary annotations).card
                = (binderLeaves converter.vocabulary annotations).length
              ∧ (∀ record ∈ combined,
                  record.level = .trace ∧ record.message = "combined wildcards")
              ∧ List.Forall₂
                  (LogRecord.announces converter.vocabulary
                    (isBound converter.vocabulary annotations))
                  (modifierLeaves converter.vocabulary annotations) announced
              ∧ (boundParameters converter.vocabulary annotations).card
                = result.elim 0 NameMap.size
              ∧ ((boundParameters converter.vocabulary annotations).card = 0 ↔ result = none)
              ∧ ∀ parameter last,
                  (((converter.convert annotations).events.map Event.record).filter
                    (LogRecord.adjusts parameter)).getLast? = some last
                  → ∃ range,
                      rangeAt result parameter = some range
                      ∧ last.field? "adjusted" = some (.display range.text))
      ∧ ∀ error,
          (converter.convert annotations).outcome = .error error
          → ∀ record ∈ (converter.convert annotations).events.map Event.record,
              record.message ≠ "converted qualifier parameters" := by
  constructor
  · intro result converted
    obtain ⟨combined, announced, bindings, parts, kinds, counted, announces, answered, named,
      final⟩ := events_of_convert_eq_ok converted
    have size : (boundParameters converter.vocabulary annotations).card = bindings.size := by
      rw [← named, NameMap.card_nameSet]
    refine ⟨combined.map Event.record, announced.map Event.record, ?_, ?_, ?_, ?_, ?_, ?_, ?_⟩
    · rw [parts, size, List.map_append, List.map_append]
      rfl
    · rw [List.length_map, size]
      exact counted
    · exact List.forall_mem_map.mpr (fun event member =>
        Event.record_of_isCombined (kinds event member))
    · exact List.forall₂_map_right_iff.mpr (announces.imp (fun _ _ announced => announced.record))
    · rw [size, answered, size_answer]
    · rw [size, answered, size_eq_zero_iff]
    · intro parameter last reported
      obtain ⟨range, told, displayed⟩ := Event.lastAdjusted?_of_record reported
      refine ⟨range, ?_, displayed⟩
      rw [answered, rangeAt_answer]
      exact final parameter range told
  · intro error failed record member
    obtain ⟨event, reported, rfl⟩ := List.mem_map.mp member
    exact Event.message_record_of_not_isConverted (isConverted_of_convert_eq_error failed reported)

/-- Two leaves for the main parameter, one inside an aggregate, with an opened bound and a
modifier without a base. -/
def contributions : List AnnotationUse :=
  [⟨"q.Multi", [("value", .annotations
      [⟨"q.Tainted", []⟩, ⟨"q.Extends", []⟩, ⟨"q.Wild", [("target", .text "X")]⟩])]⟩,
    ⟨"q.Untainted", []⟩, ⟨"q.Super", [("target", .text "Y")]⟩]

theorem records_convert_account_contributions
    : ∃ result combined announced,
        (convert { vocabulary := ⟨"q"⟩, hierarchy := tainting.hierarchy, missingBase := .warn }
          contributions).outcome = .ok result
        ∧ (convert { vocabulary := ⟨"q"⟩, hierarchy := tainting.hierarchy, missingBase := .warn }
            contributions).events.map Event.record
          = combined ++ announced ++ [.closing 3 2]
        ∧ combined.length = 1
        ∧ announced.length = 2
        ∧ rangeAt result "Main" = some (Range.between .untainted .tainted)
        ∧ ∀ record ∈
            (convert { vocabulary := ⟨"q"⟩, hierarchy := tainting.hierarchy, missingBase := .error }
              contributions).events.map Event.record,
            record.message ≠ "converted qualifier parameters" := by
  have account := records_convert_account (Q := Taint)
  obtain ⟨combined, announced, parts, counted, _, announces, size, _, _⟩ := (account
    { vocabulary := ⟨"q"⟩, hierarchy := tainting.hierarchy, missingBase := .warn }
    contributions).1 _ rfl
  have parameters : (boundParameters ⟨"q"⟩ contributions).card = 2 := size
  have binders : (binderLeaves ⟨"q"⟩ contributions).length = 3 := by decide +kernel
  have modifiers : (modifierLeaves ⟨"q"⟩ contributions).length = 2 := by decide +kernel
  rw [parameters] at parts
  refine ⟨_, combined, announced, rfl, parts, ?_, ?_, rfl, (account _ contributions).2 _ rfl⟩
  · rw [parameters, binders] at counted
    exact Nat.succ.inj (Nat.succ.inj counted)
  · exact announces.length_eq.symm.trans modifiers

end Converter

end QualifierBindings
