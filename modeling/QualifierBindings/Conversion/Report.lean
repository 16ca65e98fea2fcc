import QualifierBindings.Bindings
import QualifierBindings.Conversion.Event

/-! A computation that reports events and may stop with a conversion error. The
events reported before an error are kept.
-/

namespace QualifierBindings

/-- The events of a computation in order, and how it ended. -/
structure Report (Q α : Type) where
  events : List (Event Q)
  outcome : Except ConversionError α

namespace Report

variable {Q α β : Type}

/-- A computation that ends at once with an error. -/
def fail (error : ConversionError) : Report Q α :=
  { events := [], outcome := .error error }

def tell (events : List (Event Q)) : Report Q Unit :=
  { events, outcome := .ok () }

/-- Running one computation after another; an error of the first one ends both. -/
def andThen (first : Report Q α) (next : α → Report Q β) : Report Q β :=
  match first.outcome with
  | .error error => { events := first.events, outcome := .error error }
  | .ok value => { next value with events := first.events ++ (next value).events }

instance : Monad (Report Q) where
  pure value := { events := [], outcome := .ok value }
  bind := andThen

@[simp] theorem outcome_pure (value : α) : (pure value : Report Q α).outcome = .ok value := rfl

@[simp] theorem events_pure (value : α) : (pure value : Report Q α).events = [] := rfl

/-- The second computation is asked only when the first one succeeds. -/
@[simp] theorem outcome_bind (first : Report Q α) (next : α → Report Q β)
    : (first >>= next).outcome = first.outcome.bind (fun value => (next value).outcome) := by
  cases h : first.outcome <;> simp [bind, andThen, h, Except.bind]

@[simp] theorem outcome_map (first : Report Q α) (f : α → β)
    : (f <$> first).outcome = first.outcome.map f := by
  cases h : first.outcome <;> simp [Functor.map, andThen, h, Except.map]

/-- After a success the events go on. -/
theorem events_bind_of_ok {first : Report Q α} {value : α} (ended : first.outcome = .ok value)
    (next : α → Report Q β)
    : (first >>= next).events = first.events ++ (next value).events := by
  simp [bind, andThen, ended]

/-- After a failure nothing more is reported. -/
theorem events_bind_of_error {first : Report Q α} {error : ConversionError}
    (ended : first.outcome = .error error) (next : α → Report Q β)
    : (first >>= next).events = first.events := by
  simp [bind, andThen, ended]

/-- One computation after another succeeds exactly when both do. -/
theorem outcome_bind_eq_ok_iff {first : Report Q α} {next : α → Report Q β} {value : β}
    : (first >>= next).outcome = .ok value
      ↔ ∃ middle, first.outcome = .ok middle ∧ (next middle).outcome = .ok value := by
  cases ended : first.outcome <;> simp [ended, Except.bind]

/-- What is reported by one computation after another is reported by the first of them or,
if that succeeds, by the other. -/
theorem mem_events_bind {first : Report Q α} {next : α → Report Q β} {event : Event Q}
    : event ∈ (first >>= next).events
      ↔ event ∈ first.events
        ∨ ∃ value, first.outcome = .ok value ∧ event ∈ (next value).events := by
  cases ended : first.outcome with
  | error error => simp [events_bind_of_error ended]
  | ok value => simp [events_bind_of_ok ended]

end Report

end QualifierBindings
