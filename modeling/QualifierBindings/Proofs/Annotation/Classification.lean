import QualifierBindings.Vocabulary

/-! Which names a vocabulary understands. The package of a name only has to be there: what
follows it decides alone which marker the name stands for. A marker other than an aggregate's has
exactly one name.
-/

namespace QualifierBindings

/-- What stands after a lead is what was put after it. -/
theorem Text.after?_append (lead rest : String) : Text.after? lead (lead ++ rest) = some rest :=
  (Text.after?_eq_some_iff lead (lead ++ rest) rest).mpr rfl

/-- A beginning that lead and text share is passed over. -/
theorem Text.after?_append_append (shared lead text : String)
    : Text.after? (shared ++ lead) (shared ++ text) = Text.after? lead text := by
  apply Option.ext
  intro rest
  rw [Text.after?_eq_some_iff, Text.after?_eq_some_iff, String.append_assoc,
    String.append_right_inj]

namespace Marker

/-- Each marker is recognised by its own name. -/
theorem ofSimpleName?_simpleName (marker : Marker)
    : ofSimpleName? marker.simpleName = some marker := by
  cases marker <;> decide

/-- All markers but the aggregate have one name only. -/
theorem eq_simpleName_of_ofSimpleName? {name : String} {marker : Marker}
    (found : ofSimpleName? name = some marker) (single : marker ≠ .aggregate)
    : name = marker.simpleName := by
  unfold ofSimpleName? at found
  split at found
  · exact absurd (Option.some.inj found).symm single
  · have named := List.find?_some found
    simpa using (of_decide_eq_true named).symm

end Marker

namespace Vocabulary

/-- Under a package, what follows the package decides. -/
theorem classify?_append (package rest : String)
    : classify? ⟨package⟩ (package ++ rest)
      = (Text.after? "." rest).bind Marker.ofSimpleName? := by
  rw [classify?, Text.after?_append_append]

/-- Each marker is recognised by its name in the package. -/
@[simp] theorem classify?_qualifiedName (vocabulary : Vocabulary) (marker : Marker)
    : vocabulary.classify? (vocabulary.qualifiedName marker) = some marker := by
  rw [classify?, qualifiedName, Text.after?_append, Option.bind_some,
    Marker.ofSimpleName?_simpleName]

/-- Only an aggregate has several names. -/
theorem classify?_eq_some_iff {vocabulary : Vocabulary} {name : String} {marker : Marker}
    (single : marker ≠ .aggregate)
    : vocabulary.classify? name = some marker ↔ name = vocabulary.qualifiedName marker := by
  constructor
  · intro found
    obtain ⟨simple, lead, named⟩ := Option.bind_eq_some_iff.mp found
    rw [(Text.after?_eq_some_iff _ _ _).mp lead,
      Marker.eq_simpleName_of_ofSimpleName? named single]
    rfl
  · rintro rfl
    exact classify?_qualifiedName vocabulary marker

end Vocabulary

end QualifierBindings
