/-! What follows a given beginning of a text.
-/

namespace QualifierBindings.Text

/-- The characters after the given ones, if the list begins with them. -/
def afterChars? : List Char → List Char → Option (List Char)
  | [], rest => some rest
  | _ :: _, [] => none
  | l :: lead, c :: rest => if l = c then afterChars? lead rest else none

/-- The rest of a text that begins with `lead`. -/
def after? (lead text : String) : Option String :=
  (afterChars? lead.toList text.toList).map String.ofList

/-- Whether a text begins with `lead`. -/
def startsWith (lead text : String) : Bool :=
  (after? lead text).isSome

/-- The rest after a lead is what has to be put after it. -/
theorem afterChars?_eq_some_iff (lead text rest : List Char)
    : afterChars? lead text = some rest ↔ text = lead ++ rest := by
  induction lead generalizing text with
  | nil => simp [afterChars?, eq_comm]
  | cons l lead ih =>
      cases text with
      | nil => simp [afterChars?]
      | cons c text =>
          by_cases same : l = c
          · subst same
            simp [afterChars?, ih]
          · simp [afterChars?, same, Ne.symm same]

/-- A text begins with `lead` exactly when it is `lead` followed by the rest. -/
theorem after?_eq_some_iff (lead text rest : String)
    : after? lead text = some rest ↔ text = lead ++ rest := by
  simp only [after?, Option.map_eq_some_iff, afterChars?_eq_some_iff]
  constructor
  · rintro ⟨chars, split, rfl⟩
    apply String.toList_inj.mp
    simpa using split
  · intro split
    subst split
    exact ⟨rest.toList, by simp, by simp⟩

/-- A text starts with a lead when it is the lead and a rest. -/
theorem startsWith_iff (lead text : String)
    : startsWith lead text = true ↔ ∃ rest, text = lead ++ rest := by
  simp only [startsWith, Option.isSome_iff_exists, after?_eq_some_iff]

end QualifierBindings.Text
