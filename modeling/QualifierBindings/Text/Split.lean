/-! Cutting a text at every occurrence of a character, and at a given offset.
-/

namespace QualifierBindings.Text

/-- The pieces between the separators; without a separator the whole is one piece. -/
def split (separator : Char) : List Char → List (List Char)
  | [] => [[]]
  | c :: rest =>
      if c = separator then [] :: split separator rest
      else
        match split separator rest with
        | [] => [[c]]
        | piece :: pieces => (c :: piece) :: pieces

/-- The number of bytes of the characters in UTF-8. -/
def byteLength : List Char → Nat
  | [] => 0
  | c :: rest => c.utf8Size + byteLength rest

/-- The characters before and after an offset in bytes, unless it falls inside a
character or behind the end. -/
def cutAt? : Nat → List Char → Option (List Char × List Char)
  | 0, cs => some ([], cs)
  | _ + 1, [] => none
  | offset + 1, c :: rest =>
      if c.utf8Size ≤ offset + 1 then
        (cutAt? (offset + 1 - c.utf8Size) rest).map (fun parts => (c :: parts.1, parts.2))
      else none

/-- Also the empty text has a piece, the empty one. -/
theorem split_ne_nil (separator : Char) (cs : List Char) : split separator cs ≠ [] := by
  cases cs with
  | nil => simp [split]
  | cons c rest =>
      rw [split]
      split
      · simp
      · split <;> simp

/-- Pieces on both sides of a separator are cut independently. -/
theorem split_append_separator (separator : Char) (left right : List Char)
    : split separator (left ++ separator :: right)
      = split separator left ++ split separator right := by
  induction left with
  | nil => simp [split]
  | cons c rest ih =>
      by_cases same : c = separator
      · simp [split, same, ih]
      · cases pieces : split separator rest with
        | nil => exact absurd pieces (split_ne_nil separator rest)
        | cons piece pieces => simp_all [split]

end QualifierBindings.Text
