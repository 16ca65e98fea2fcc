import QualifierBindings.Proofs.Config.UnknownKeys

/-! The known part of a document: what is left when every key without a meaning is deleted, at the
root and in the tables of the sections. It holds exactly the paths that have a meaning, and it is
read as the whole document is, wrong values included, since the readers of all sections pass over
the keys that they do not know.
-/

namespace QualifierBindings

namespace Toml

/-- A table with those members alone whose keys are given; every other value as it is. -/
def Value.restrict (keys : List String) : Value → Value
  | .table members => .table (members.filter (fun member => keys.contains member.1))
  | value => value

/-- The paths into a filtered table are those that begin with a kept key. -/
theorem leads_filter_iff {keys : List String} {members : List (String × Value)} {key : String}
    {below : List String}
    : Leads (members.filter (fun member => keys.contains member.1)) (key :: below)
      ↔ Leads members (key :: below) ∧ key ∈ keys := by
  have kept {name : String} {value : Value}
      : (name, value) ∈ members.filter (fun member => keys.contains member.1)
        ↔ (name, value) ∈ members ∧ name ∈ keys := by
    simp
  constructor
  · intro leads
    cases leads with
    | here member => exact ⟨.here (kept.mp member).1, (kept.mp member).2⟩
    | inside member deeper => exact ⟨.inside (kept.mp member).1 deeper, (kept.mp member).2⟩
  · rintro ⟨leads, read⟩
    cases leads with
    | here member => exact .here (kept.mpr ⟨member, read⟩)
    | inside member deeper => exact .inside (kept.mpr ⟨member, read⟩) deeper

end Toml

namespace Config

open Toml (Leads)

/-- What is left of a member of a document: nothing of an unknown one, and the known keys of the
table of a section. -/
def knownMember? (entry : String × Toml.Value) : Option (String × Toml.Value) :=
  (sectionKeys? entry.1).map (fun keys => (entry.1, entry.2.restrict keys))

def knownPart (members : List (String × Toml.Value)) : List (String × Toml.Value) :=
  members.filterMap knownMember?

variable {members : List (String × Toml.Value)} {path : List String}

/-- What is kept is a section with its known keys. -/
theorem mem_knownPart_iff {name : String} {value : Toml.Value}
    : (name, value) ∈ knownPart members
      ↔ ∃ whole keys,
          (name, whole) ∈ members
          ∧ sectionKeys? name = some keys
          ∧ whole.restrict keys = value := by
  simp only [knownPart, knownMember?, List.mem_filterMap, Option.map_eq_some_iff, Prod.exists,
    Prod.mk.injEq]
  constructor
  · rintro ⟨_, whole, member, keys, found, rfl, same⟩
    exact ⟨whole, keys, member, found, same⟩
  · rintro ⟨whole, keys, member, found, same⟩
    exact ⟨name, whole, member, keys, found, rfl, same⟩

/-- Every path has a first key. -/
theorem exists_cons_of_leads (leads : Leads members path)
    : ∃ key below, path = key :: below := by
  cases leads with
  | here => exact ⟨_, _, rfl⟩
  | inside => exact ⟨_, _, rfl⟩

/-- The known part holds the paths of the document that have a meaning, and no others. -/
theorem leads_knownPart_iff : Leads (knownPart members) path ↔ Leads members path ∧ Known path := by
  constructor
  · intro leads
    cases leads with
    | here member =>
        obtain ⟨whole, keys, held, found, -⟩ := mem_knownPart_iff.mp member
        exact ⟨.here held, known_section_iff.mpr ⟨keys, found⟩⟩
    | @inside _ inner name rest member below =>
        obtain ⟨whole, keys, held, found, restricted⟩ := mem_knownPart_iff.mp member
        obtain ⟨key, deeper, rfl⟩ := exists_cons_of_leads below
        cases whole with
        | table full =>
            obtain rfl := Toml.Value.table.inj restricted
            obtain ⟨inFull, read⟩ := Toml.leads_filter_iff.mp below
            exact ⟨.inside held inFull, (known_entry_iff_mem found).mpr read⟩
        | text | integer | real | boolean | moment | array | tables =>
            simp [Toml.Value.restrict] at restricted
  · rintro ⟨leads, known⟩
    cases leads with
    | here member =>
        obtain ⟨keys, found⟩ := known_section_iff.mp known
        exact .here (mem_knownPart_iff.mpr ⟨_, keys, member, found, rfl⟩)
    | @inside _ inner name rest member below =>
        obtain ⟨key, deeper, rfl⟩ := exists_cons_of_leads below
        obtain ⟨keys, found, read⟩ := known_entry_iff.mp known
        exact .inside (mem_knownPart_iff.mpr ⟨_, keys, member, found, rfl⟩)
          (Toml.leads_filter_iff.mpr ⟨below, read⟩)

/-- Nothing unknown is left but a date or a time that stands in the place of a section. -/
theorem unknownPaths_knownPart_eq_nil_iff
    : unknownPaths (knownPart members) = []
      ↔ ∀ name written, (name, .moment written) ∈ members → ¬Known [name] := by
  rw [unknownPaths, List.flatMap_eq_nil_iff]
  constructor
  · intro silent name written member known
    obtain ⟨keys, found⟩ := known_section_iff.mp known
    have left := silent _ (mem_knownPart_iff.mpr ⟨_, keys, member, found, rfl⟩)
    have unread : ¬Known [name, Toml.Value.momentKey] := by cases known <;> decide
    rw [known_entry_iff_mem found] at unread
    simp [unknownBelow, found, Toml.Value.restrict, Toml.Value.members?, unread] at left
  · rintro timeless ⟨name, value⟩ member
    obtain ⟨whole, keys, held, found, rfl⟩ := mem_knownPart_iff.mp member
    rw [unknownBelow, found]
    cases whole with
    | moment written => exact absurd (known_section_iff.mpr ⟨keys, found⟩) (timeless _ _ held)
    | table inner =>
        simp [Toml.Value.restrict, Toml.Value.members?]
    | text | integer | real | boolean | array | tables => rfl

-----------------------------------------------------------------------------------------
-- What readers pass over
-----------------------------------------------------------------------------------------

/-- A reader of entries keeps its part as it is when it does not know the key. -/
def PassesOver {S : Type} (keys : List String)
    (read : S → String × Toml.Value → Except ShapeError S) : Prop :=
  ∀ part entry, entry.1 ∉ keys → read part entry = .ok part

/-- The section of annotations passes over all keys but the package. -/
theorem AnnotationSection.passesOver : PassesOver keys readEntry := by
  intro part entry unknown
  unfold readEntry
  split
  · simp_all [keys]
  · rfl

/-- The section of bounds passes over all keys but the policy. -/
theorem BoundSection.passesOver : PassesOver keys readEntry := by
  intro part entry unknown
  unfold readEntry
  split
  · simp_all [keys]
  · rfl

/-- The section of the log passes over all keys but its two. -/
theorem LogSection.passesOver : PassesOver keys readEntry := by
  intro part entry unknown
  unfold readEntry
  split
  · simp_all [keys]
  · simp_all [keys]
  · rfl

/-- A structure is read from the members that its reader knows. -/
theorem asFields_restrict {S : Type} {keys : List String}
    {read : S → String × Toml.Value → Except ShapeError S} (passes : PassesOver keys read)
    (name : String) (start : S) (value : Toml.Value)
    : (value.restrict keys).asFields name keys start read
      = value.asFields name keys start read := by
  cases value with
  | table members =>
      simp only [Toml.Value.restrict, Toml.Value.asFields, Toml.Value.members?, List.foldlM_filter]
      congr 1
      funext part entry
      split
      · rfl
      · rename_i unknown
        exact (passes part entry (by simpa using unknown)).symm
  | text | integer | real | boolean | moment | array | tables => rfl

/-- An unknown key at the root is not read. -/
theorem readEntry_of_unknown {config : Config} {entry : String × Toml.Value}
    (unknown : ¬Known [entry.1])
    : readEntry config entry = .ok config := by
  unfold readEntry
  split
  · simp_all [Known.annotations]
  · simp_all [Known.bounds]
  · simp_all [Known.logging]
  · rfl

/-- A section reads the same without its unknown keys. -/
theorem readEntry_of_knownMember? {config : Config} {entry kept : String × Toml.Value}
    (restricted : knownMember? entry = some kept)
    : readEntry config kept = readEntry config entry := by
  obtain ⟨name, value⟩ := entry
  obtain ⟨keys, found, rfl⟩ := Option.map_eq_some_iff.mp restricted
  have known : Known [name] := known_section_iff.mpr ⟨keys, found⟩
  cases known with
  | annotations =>
      cases found
      simp only [readEntry, AnnotationSection.ofToml,
        asFields_restrict AnnotationSection.passesOver]
  | bounds =>
      cases found
      simp only [readEntry, BoundSection.ofToml, asFields_restrict BoundSection.passesOver]
  | logging =>
      cases found
      simp only [readEntry, LogSection.ofToml, asFields_restrict LogSection.passesOver]

/-- Reading the known part ends as reading the document does. -/
theorem ofTable_knownPart (members : List (String × Toml.Value))
    : ofTable (knownPart members) = ofTable members := by
  rw [ofTable, ofTable, knownPart, List.foldlM_filterMap]
  congr 1
  funext config entry
  split
  · rename_i kept restricted
    exact readEntry_of_knownMember? restricted
  · rename_i dropped
    have nameless := sectionKeys?_eq_none_iff.mp (Option.map_eq_none_iff.mp dropped)
    exact (readEntry_of_unknown nameless).symm

end Config

end QualifierBindings
