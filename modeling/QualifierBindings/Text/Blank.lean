/-! Blank characters and trimmed text. A character is blank when it has the
Unicode property White_Space.
-/

namespace QualifierBindings.Text

/-- The characters with the Unicode property White_Space. -/
def isBlank (c : Char) : Bool :=
  (0x09 ≤ c.toNat && c.toNat ≤ 0x0D) || c.toNat = 0x20 || c.toNat = 0x85 || c.toNat = 0xA0
    || c.toNat = 0x1680 || (0x2000 ≤ c.toNat && c.toNat ≤ 0x200A) || c.toNat = 0x2028
    || c.toNat = 0x2029 || c.toNat = 0x202F || c.toNat = 0x205F || c.toNat = 0x3000

/-- The characters without the blank ones at the end. -/
def trimEnd : List Char → List Char
  | [] => []
  | c :: rest =>
      match trimEnd rest with
      | [] => if isBlank c then [] else [c]
      | kept => c :: kept

/-- The characters without the blank ones at both ends. -/
def trimChars (cs : List Char) : List Char :=
  trimEnd (cs.dropWhile isBlank)

/-- The text without the blank characters at both ends. -/
def trim (text : String) : String :=
  String.ofList (trimChars text.toList)

/-- Nothing is left of blanks. -/
theorem trimEnd_eq_nil_iff (cs : List Char)
    : trimEnd cs = [] ↔ ∀ c ∈ cs, isBlank c = true := by
  induction cs with
  | nil => simp [trimEnd]
  | cons c rest ih =>
      rw [trimEnd]
      split
      · rename_i nothing
        have rest_blank := ih.mp nothing
        by_cases hb : isBlank c = true <;> simp_all
      · rename_i something
        simp only [List.cons_ne_nil, List.mem_cons, forall_eq_or_imp, false_iff, not_and]
        intro _ rest_blank
        exact something (ih.mpr rest_blank)

/-- Trimmed text is empty exactly when all of its characters are blank. -/
theorem trimChars_eq_nil_iff (cs : List Char)
    : trimChars cs = [] ↔ ∀ c ∈ cs, isBlank c = true := by
  rw [trimChars, trimEnd_eq_nil_iff]
  induction cs with
  | nil => simp
  | cons c rest ih =>
      by_cases hb : isBlank c = true
      · simpa [List.dropWhile_cons, hb] using ih
      · simp [hb]

/-- Blanks at the end do not count. -/
theorem trimEnd_append_of_blank (cs : List Char) {after : List Char}
    (blank : ∀ c ∈ after, isBlank c = true)
    : trimEnd (cs ++ after) = trimEnd cs := by
  induction cs with
  | nil => exact (trimEnd_eq_nil_iff after).mpr blank
  | cons c rest ih => rw [List.cons_append, trimEnd, trimEnd, ih]

/-- Trimming does not see blanks around a text. -/
theorem trimChars_pad {before after : List Char} (cs : List Char)
    (blankBefore : ∀ c ∈ before, isBlank c = true) (blankAfter : ∀ c ∈ after, isBlank c = true)
    : trimChars (before ++ cs ++ after) = trimChars cs := by
  rw [trimChars, trimChars, List.append_assoc, List.dropWhile_append_of_pos blankBefore,
    List.dropWhile_append]
  split
  · rename_i nothing
    rw [List.isEmpty_iff.mp nothing, trimEnd, trimEnd_eq_nil_iff]
    intro c member
    exact blankAfter c (List.dropWhile_subset isBlank member)
  · exact trimEnd_append_of_blank _ blankAfter

/-- What is trimmed off at the end are blanks. -/
theorem exists_eq_trimEnd_append (cs : List Char)
    : ∃ after, cs = trimEnd cs ++ after ∧ ∀ c ∈ after, isBlank c = true := by
  induction cs with
  | nil => exact ⟨[], by simp [trimEnd]⟩
  | cons c rest ih =>
      obtain ⟨after, whole, blank⟩ := ih
      rw [trimEnd]
      split
      · rename_i nothing
        have blankRest := (trimEnd_eq_nil_iff rest).mp nothing
        by_cases hb : isBlank c = true
        · exact ⟨c :: rest, by simp [hb], List.forall_mem_cons.mpr ⟨hb, blankRest⟩⟩
        · exact ⟨rest, by simp [hb], blankRest⟩
      · exact ⟨after, by rw [List.cons_append, ← whole], blank⟩

/-- What is trimmed off a text are blanks on both sides. -/
theorem exists_eq_append_trimChars (cs : List Char)
    : ∃ before after,
        cs = before ++ trimChars cs ++ after
        ∧ (∀ c ∈ before, isBlank c = true) ∧ ∀ c ∈ after, isBlank c = true := by
  obtain ⟨after, whole, blank⟩ := exists_eq_trimEnd_append (cs.dropWhile isBlank)
  refine ⟨cs.takeWhile isBlank, after, ?_, ?_, blank⟩
  · rw [trimChars, List.append_assoc, ← whole, List.takeWhile_append_dropWhile]
  · intro c member
    exact List.all_eq_true.mp List.all_takeWhile c member

/-- Trimming again changes nothing. -/
theorem trimChars_trimChars (cs : List Char) : trimChars (trimChars cs) = trimChars cs := by
  obtain ⟨before, after, whole, blankBefore, blankAfter⟩ := exists_eq_append_trimChars cs
  rw [← trimChars_pad (trimChars cs) blankBefore blankAfter, ← whole]

/-- Trimming a text again changes nothing. -/
theorem trim_trim (text : String) : trim (trim text) = trim text := by
  rw [trim, trim, String.toList_ofList, trimChars_trimChars]

/-- Trimming a text does not see blanks around it. -/
theorem trim_pad {before after : String} (text : String)
    (blankBefore : ∀ c ∈ before.toList, isBlank c = true)
    (blankAfter : ∀ c ∈ after.toList, isBlank c = true)
    : trim (before ++ text ++ after) = trim text := by
  rw [trim, trim, String.toList_append, String.toList_append,
    trimChars_pad text.toList blankBefore blankAfter]

section Map

variable {f : Char → Char} (keeps : ∀ c, isBlank (f c) = isBlank c)

include keeps

/-- Trimming the end goes along with a change of characters that keeps the blanks. -/
theorem trimEnd_map (cs : List Char) : trimEnd (cs.map f) = (trimEnd cs).map f := by
  induction cs with
  | nil => rfl
  | cons c rest ih =>
      rw [List.map_cons, trimEnd, trimEnd, ih, keeps]
      cases trimEnd rest with
      | nil => cases isBlank c <;> rfl
      | cons d later => rfl

/-- Trimming goes along with a change of characters that keeps the blanks. -/
theorem trimChars_map (cs : List Char) : trimChars (cs.map f) = (trimChars cs).map f := by
  have same : isBlank ∘ f = isBlank := funext keeps
  rw [trimChars, trimChars, List.dropWhile_map, same, trimEnd_map keeps]

end Map

/-- No character from the first letter to the last one is blank. -/
theorem isBlank_eq_false_of_letters {c : Char} (first : 'A'.toNat ≤ c.toNat)
    (last : c.toNat ≤ 'z'.toNat)
    : isBlank c = false := by
  have low : 65 ≤ c.toNat := first
  have high : c.toNat ≤ 122 := last
  simp only [isBlank, Bool.or_eq_false_iff, Bool.and_eq_false_iff, decide_eq_false_iff_not]
  omega

/-- Blanks have no case, and letters are no blanks. -/
theorem isBlank_toLower (c : Char) : isBlank c.toLower = isBlank c := by
  unfold Char.toLower
  split
  · rename_i upper
    have low : 65 ≤ c.toNat := upper.1
    have high : c.toNat ≤ 90 := upper.2
    have lowered : (c.val + ('a'.val - 'A'.val)).toNat = c.toNat + 32 := by
      rw [UInt32.toNat_add]
      change (c.toNat + 32) % 2 ^ 32 = c.toNat + 32
      omega
    rw [isBlank_eq_false_of_letters low (Nat.le_trans high (by decide)),
      isBlank_eq_false_of_letters]
    · change 65 ≤ (c.val + ('a'.val - 'A'.val)).toNat
      omega
    · change (c.val + ('a'.val - 'A'.val)).toNat ≤ 122
      omega
  · rfl

end QualifierBindings.Text
