import QualifierBindings.Config.Validation

/-! The package names that validation accepts: those whose segments between the dots are not empty
and hold no blank. The checks look for dots at both ends and next to each other; together they find
every segment that is empty.
-/

namespace QualifierBindings.Config

/-- The first segment is empty when nothing stands before the first dot. -/
theorem head?_splitOn_eq_nil_iff (cs : List Char)
    : (cs.splitOn '.').head? = some [] ↔ cs = [] ∨ cs.head? = some '.' := by
  cases cs with
  | nil => simp
  | cons c rest =>
      rw [List.splitOn_cons_eq_if_modifyHead]
      by_cases dot : c = '.'
      · simp [dot]
      · simp [dot]

theorem hasDoubleDot_cons (c : Char) (rest : List Char)
    : hasDoubleDot (c :: rest) = true
      ↔ c = '.' ∧ rest.head? = some '.' ∨ hasDoubleDot rest = true := by
  rw [hasDoubleDot.eq_def]
  split
  · rename_i same
    obtain ⟨rfl, rfl⟩ := List.cons.inj same
    simp
  · rename_i other same
    obtain ⟨rfl, rfl⟩ := List.cons.inj same
    have apart : ¬(c = '.' ∧ rest.head? = some '.') := by
      rintro ⟨rfl, next⟩
      obtain ⟨later, rfl⟩ := List.head?_eq_some_iff.mp next
      exact other later rfl rfl
    simp [apart]
  · contradiction

/-- A later segment is empty when a dot stands at the end or before another one, by induction on
the characters. -/
theorem nil_mem_tail_splitOn_iff (cs : List Char)
    : [] ∈ (cs.splitOn '.').tail ↔ cs.getLast? = some '.' ∨ hasDoubleDot cs = true := by
  induction cs with
  | nil => simp [hasDoubleDot]
  | cons c rest ih =>
      have first := head?_splitOn_eq_nil_iff rest
      obtain ⟨segment, segments, cut⟩ :=
        List.exists_cons_of_ne_nil (List.splitOn_ne_nil '.' rest)
      rw [cut, List.tail_cons] at ih
      rw [cut, List.head?_cons, Option.some.injEq] at first
      rw [hasDoubleDot_cons, List.splitOn_cons_eq_if_modifyHead, cut]
      by_cases dot : c = '.'
      · subst dot
        rw [if_pos (beq_self_eq_true '.'), List.tail_cons, List.mem_cons, ih, eq_comm, first]
        cases rest with
        | nil => simp
        | cons d later => simp [or_left_comm]
      · rw [if_neg (by simpa using dot), List.modifyHead_cons, List.tail_cons, ih]
        cases rest with
        | nil => simp [dot]
        | cons d later => simp [dot]

/-- The checks at both ends and for two dots in a row find all empty segments. -/
theorem nil_mem_splitOn_iff (cs : List Char)
    : [] ∈ cs.splitOn '.'
      ↔ cs = [] ∨ cs.head? = some '.' ∨ cs.getLast? = some '.' ∨ hasDoubleDot cs = true := by
  have first := head?_splitOn_eq_nil_iff cs
  have others := nil_mem_tail_splitOn_iff cs
  obtain ⟨segment, segments, cut⟩ := List.exists_cons_of_ne_nil (List.splitOn_ne_nil '.' cs)
  rw [cut, List.head?_cons, Option.some.injEq] at first
  rw [cut, List.tail_cons] at others
  rw [cut, List.mem_cons, eq_comm, first, others, or_assoc]

/-- What is looked for in a package, in this order: a character that is not blank, an empty
segment, and a blank. -/
theorem packageFault?_eq (package : String)
    : packageFault? package
      = if package.toList.all Text.isBlank then some .blank
        else if [] ∈ package.toList.splitOn '.' then some .emptySegment
        else if package.toList.any Text.isBlank then some .holdsBlank
        else none := by
  unfold packageFault?
  simp only [List.isEmpty_iff, Text.trimChars_eq_nil_iff, ← List.all_eq_true, Bool.or_eq_true,
    decide_eq_true_eq]
  generalize package.toList = cs
  by_cases blank : cs.all Text.isBlank = true
  · rw [if_pos blank, if_pos blank]
  · have nonempty : cs ≠ [] := by
      rintro rfl
      simp at blank
    have checks : (cs.head? = some '.' ∨ cs.getLast? = some '.') ∨ hasDoubleDot cs = true
        ↔ [] ∈ cs.splitOn '.' := by
      rw [nil_mem_splitOn_iff, or_iff_right nonempty, or_assoc]
    simp only [if_neg blank, checks]

/-- A name without an empty segment between its dots and without a blank. -/
def DottedName (package : String) : Prop :=
  [] ∉ package.toList.splitOn '.' ∧ ∀ c ∈ package.toList, Text.isBlank c = false

instance (package : String) : Decidable (DottedName package) :=
  decidable_of_iff
    ([] ∉ package.toList.splitOn '.' ∧ package.toList.any Text.isBlank = false)
    (by simp only [DottedName, List.any_eq_false, Bool.not_eq_true])

theorem DottedName.not_blank {package : String} (named : DottedName package)
    : ¬package.toList.all Text.isBlank = true := by
  rw [List.all_eq_true]
  intro blank
  obtain ⟨segments, unblank⟩ := named
  cases held : package.toList with
  -- the empty name is one empty segment
  | nil => simp [held] at segments
  | cons c rest =>
      have member : c ∈ package.toList := by simp [held]
      exact absurd (blank c member) (by simp [unblank c member])

theorem DottedName.packageFault? {package : String} (named : DottedName package)
    : packageFault? package = none := by
  have unblank : ¬package.toList.any Text.isBlank = true := by
    rw [List.any_eq_true]
    rintro ⟨c, member, blank⟩
    exact absurd blank (by simp [named.2 c member])
  rw [packageFault?_eq, if_neg named.not_blank, if_neg named.1, if_neg unblank]

/-- A package that is no dotted name is blank, or else it has an empty segment, or else a blank. -/
theorem packageFault?_of_not_dottedName {package : String} (unnamed : ¬DottedName package)
    : packageFault? package
      = some
          (if package.toList.all Text.isBlank then .blank
          else if [] ∈ package.toList.splitOn '.' then .emptySegment
          else .holdsBlank) := by
  rw [packageFault?_eq]
  split
  · rfl
  · split
    · rfl
    · rename_i segments
      have holds : package.toList.any Text.isBlank = true := by
        apply Classical.byContradiction
        intro nowhere
        exact unnamed ⟨segments, by simpa using nowhere⟩
      rw [if_pos holds]

/-- A package has no fault exactly when it is a dotted name. -/
theorem packageFault?_eq_none_iff {package : String}
    : packageFault? package = none ↔ DottedName package := by
  refine ⟨?_, DottedName.packageFault?⟩
  intro accepted
  apply Classical.byContradiction
  intro unnamed
  rw [packageFault?_of_not_dottedName unnamed] at accepted
  contradiction

/-- Validation reports nothing about the package exactly when it is a dotted name. Otherwise it
reports one error for its key: the package is blank, or else it has an empty segment, or else it
holds a blank. -/
theorem packageErrors_exact (config : Config)
    : config.packageErrors
      = if DottedName config.annotations.package then []
        else
          [{ path := "annotations.package",
             fault :=
               if config.annotations.package.toList.all Text.isBlank then .blank
               else if [] ∈ config.annotations.package.toList.splitOn '.' then .emptySegment
               else .holdsBlank }] := by
  rw [packageErrors]
  by_cases named : DottedName config.annotations.package
  · rw [if_pos named, named.packageFault?]
    rfl
  · rw [if_neg named, packageFault?_of_not_dottedName named]
    rfl

/-- A dot between blanks is between segments that are not empty. -/
example
    : packageErrors { annotations := { package := " . " } }
      = [{ path := "annotations.package", fault := .holdsBlank }] := by
  decide

end QualifierBindings.Config
