import QualifierBindings.Config.Loading

/-! The unknown keys of a document. A key is unknown when the configuration has no meaning for the
path that leads to it; of a part of the document that has no meaning only the topmost key counts.
The report names exactly these keys, in ascending order and once each. It drops all dots at the
front of a path, so it writes every path as in the document unless an unknown key at the root
begins with a dot.
-/

namespace QualifierBindings

/-- The names of a map stand in ascending order, each once. -/
theorem NameMap.ascending_names {α : Type} (map : NameMap α) : map.names.Pairwise (· < ·) :=
  List.pairwise_map.mpr map.ascending

/-- A path of keys leads from the members of a table to a value, through the tables between. -/
inductive Toml.Leads : List (String × Toml.Value) → List String → Prop where
  | here {members : List (String × Toml.Value)} {key : String} {value : Toml.Value}
    (member : (key, value) ∈ members)
    : Leads members [key]
  | inside {members inner : List (String × Toml.Value)} {key : String} {path : List String}
    (member : (key, .table inner) ∈ members) (below : Leads inner path)
    : Leads members (key :: path)

namespace Config

open Toml (Leads)

-----------------------------------------------------------------------------------------
-- What the configuration has a meaning for
-----------------------------------------------------------------------------------------

/-- The paths that have a meaning: to a section, to a key of a section, and to whatever the value
of such a key holds. -/
inductive Known : List String → Prop where
  | document : Known []
  | annotations : Known ["annotations"]
  | package (below : List String) : Known ("annotations" :: "package" :: below)
  | bounds : Known ["bounds"]
  | missingBase (below : List String) : Known ("bounds" :: "missing_base" :: below)
  | logging : Known ["logging"]
  | level (below : List String) : Known ("logging" :: "level" :: below)
  | json (below : List String) : Known ("logging" :: "json" :: below)

/-- The known keys at the root are the sections. -/
theorem known_section_iff {name : String}
    : Known [name] ↔ ∃ keys, sectionKeys? name = some keys := by
  constructor
  · intro known
    cases known <;> exact ⟨_, rfl⟩
  · rintro ⟨keys, found⟩
    unfold sectionKeys? at found
    split at found
    · exact .annotations
    · exact .bounds
    · exact .logging
    · contradiction

/-- What is no section is unknown at the root. -/
theorem sectionKeys?_eq_none_iff {name : String} : sectionKeys? name = none ↔ ¬Known [name] := by
  rw [known_section_iff, not_exists, Option.eq_none_iff_forall_ne_some]

/-- Below the key of a section everything has a meaning or nothing. -/
theorem known_entry_iff {name key : String} {below : List String}
    : Known (name :: key :: below) ↔ ∃ keys, sectionKeys? name = some keys ∧ key ∈ keys := by
  constructor
  · intro known
    cases known <;> exact ⟨_, rfl, by decide⟩
  · rintro ⟨keys, found, member⟩
    unfold sectionKeys? at found
    split at found
    · cases found
      rw [List.mem_singleton.mp member]
      exact .package below
    · cases found
      rw [List.mem_singleton.mp member]
      exact .missingBase below
    · cases found
      have either : key = "level" ∨ key = "json" := by simpa [LogSection.keys] using member
      rcases either with rfl | rfl
      · exact .level below
      · exact .json below
    · contradiction

/-- In a section its own keys are known, with everything below them. -/
theorem known_entry_iff_mem {name key : String} {keys below : List String}
    (found : sectionKeys? name = some keys)
    : Known (name :: key :: below) ↔ key ∈ keys := by
  rw [known_entry_iff, found]
  simp

instance (path : List String) : Decidable (Known path) :=
  match path with
  | [] => isTrue .document
  | [name] =>
      decidable_of_iff ((sectionKeys? name).isSome = true)
        (by rw [known_section_iff, Option.isSome_iff_exists])
  | name :: key :: below =>
      decidable_of_iff (key ∈ (sectionKeys? name).getD [])
        (by rw [known_entry_iff]; cases sectionKeys? name <;> simp)

/-- A path to a key without a meaning, all keys above which have one. -/
structure TopmostUnknown (members : List (String × Toml.Value)) (path : List String) : Prop where
  leads : Leads members path
  unknown : ¬Known path
  above : ∀ shorter, shorter <+: path → shorter ≠ path → Known shorter

variable {members : List (String × Toml.Value)} {path : List String}

/-- An unknown key at the root is topmost. -/
theorem TopmostUnknown.of_root {key : String} {value : Toml.Value}
    (member : (key, value) ∈ members) (unknown : ¬Known [key])
    : TopmostUnknown members [key] := by
  refine ⟨.here member, unknown, ?_⟩
  intro shorter lead other
  rcases List.prefix_cons_iff.mp lead with rfl | ⟨rest, rfl, nothing⟩
  · exact .document
  · rw [List.prefix_nil.mp nothing] at other
    exact absurd rfl other

/-- An unknown key in a section is topmost. -/
theorem TopmostUnknown.of_section {name key : String} {value : Toml.Value}
    {inner : List (String × Toml.Value)} (member : (name, .table inner) ∈ members)
    (known : Known [name]) (held : (key, value) ∈ inner) (unknown : ¬Known [name, key])
    : TopmostUnknown members [name, key] := by
  refine ⟨.inside member (.here held), unknown, ?_⟩
  intro shorter lead other
  rcases List.prefix_cons_iff.mp lead with rfl | ⟨rest, rfl, later⟩
  · exact .document
  · rcases List.prefix_cons_iff.mp later with rfl | ⟨last, rfl, nothing⟩
    · exact known
    · rw [List.prefix_nil.mp nothing] at other
      exact absurd rfl other

/-- A topmost unknown key stands at the root or in the table of a section, since a path that goes
on has a meaning as soon as its first two keys have one. -/
theorem topmostUnknown_iff
    : TopmostUnknown members path
      ↔ (∃ key value, (key, value) ∈ members ∧ ¬Known [key] ∧ path = [key])
        ∨ ∃ name inner key value,
            (name, .table inner) ∈ members
            ∧ Known [name]
            ∧ (key, value) ∈ inner
            ∧ ¬Known [name, key]
            ∧ path = [name, key] := by
  constructor
  · rintro ⟨leads, unknown, above⟩
    cases leads with
    | here member => exact .inl ⟨_, _, member, unknown, rfl⟩
    | @inside _ inner name rest member below =>
        right
        cases below with
        | @here _ key value held =>
            have known : Known [name] := above [name] ⟨[key], rfl⟩ (by simp)
            exact ⟨name, inner, key, value, member, known, held, unknown, rfl⟩
        | @inside _ deeper key rest held further =>
            have nonempty : rest ≠ [] := by cases further <;> simp
            have known : Known [name, key] := above [name, key] ⟨rest, rfl⟩ (by simp [nonempty])
            exact absurd (known_entry_iff.mpr (known_entry_iff.mp known)) unknown
  · rintro (⟨key, value, member, unknown, rfl⟩
      | ⟨name, inner, key, value, member, known, held, unknown, rfl⟩)
    · exact .of_root member unknown
    · exact .of_section member known held unknown

/-- The paths that are reported are those of the topmost unknown keys. A date or a time in the place
of a section counts as a table with a key that the document does not have. -/
theorem mem_unknownPaths_iff
    (timeless : ∀ name written, (name, .moment written) ∈ members → ¬Known [name])
    : path ∈ unknownPaths members ↔ TopmostUnknown members path := by
  rw [topmostUnknown_iff, unknownPaths, List.mem_flatMap]
  constructor
  · rintro ⟨⟨name, value⟩, member, reported⟩
    rw [unknownBelow] at reported
    cases found : sectionKeys? name with
    | none =>
        simp only [found, List.mem_singleton] at reported
        exact .inl ⟨name, value, member, sectionKeys?_eq_none_iff.mp found, reported⟩
    | some keys =>
        have known : Known [name] := known_section_iff.mpr ⟨keys, found⟩
        simp only [found] at reported
        cases value with
        | moment written => exact absurd known (timeless name written member)
        | table inner =>
            simp only [Toml.Value.members?, List.mem_map, List.mem_filter] at reported
            obtain ⟨⟨key, value⟩, ⟨held, unread⟩, rfl⟩ := reported
            have unknown : ¬Known [name, key] := by
              rw [known_entry_iff_mem found]
              simpa using unread
            exact .inr ⟨name, inner, key, value, member, known, held, unknown, rfl⟩
        | text | integer | real | boolean | array | tables =>
            simp [Toml.Value.members?] at reported
  · rintro (⟨key, value, member, unknown, rfl⟩
      | ⟨name, inner, key, value, member, known, held, unknown, rfl⟩)
    · refine ⟨_, member, ?_⟩
      simp [unknownBelow, sectionKeys?_eq_none_iff.mpr unknown]
    · refine ⟨_, member, ?_⟩
      obtain ⟨keys, found⟩ := known_section_iff.mp known
      rw [known_entry_iff_mem found] at unknown
      simp only [unknownBelow, found, Toml.Value.members?, List.mem_map, List.mem_filter]
      exact ⟨(key, value), ⟨held, by simpa using unknown⟩, rfl⟩

-----------------------------------------------------------------------------------------
-- How a path is written
-----------------------------------------------------------------------------------------

/-- What is left of a text when all dots at its front are dropped. -/
def Undotted (whole text : String) : Prop :=
  (∃ count, whole.toList = List.replicate count '.' ++ text.toList)
  ∧ text.toList.head? ≠ some '.'

/-- What is left without the dots at the front begins with no dot. -/
theorem dropWhile_dot_eq_iff (whole text : List Char)
    : whole.dropWhile (fun c => c = '.') = text
      ↔ (∃ count, whole = List.replicate count '.' ++ text) ∧ text.head? ≠ some '.' := by
  induction whole with
  | nil =>
      constructor
      · rintro rfl
        exact ⟨⟨0, rfl⟩, by simp⟩
      · rintro ⟨⟨count, split⟩, -⟩
        exact (List.append_eq_nil_iff.mp split.symm).2.symm
  | cons c rest ih =>
      by_cases dot : c = '.'
      · subst dot
        rw [List.dropWhile_cons_of_pos (by simp), ih]
        refine and_congr_left (fun undotted => ?_)
        constructor
        · rintro ⟨count, rfl⟩
          exact ⟨count + 1, rfl⟩
        · rintro ⟨count, split⟩
          cases count with
          | zero => simp [← (show '.' :: rest = text from split)] at undotted
          | succ count => exact ⟨count, (List.cons.inj split).2⟩
      · rw [List.dropWhile_cons_of_neg (by simpa using dot)]
        constructor
        · rintro rfl
          exact ⟨⟨0, rfl⟩, by simpa using dot⟩
        · rintro ⟨⟨count, split⟩, -⟩
          cases count with
          | zero => exact split
          | succ count => exact absurd (List.cons.inj split).1 dot

/-- A path is reported by its text without the dots at the front. -/
theorem pathText_eq_iff {path : List String} {text : String}
    : pathText path = text ↔ Undotted (String.intercalate "." path) text := by
  rw [Undotted, ← dropWhile_dot_eq_iff, pathText, ← String.toList_inj, String.toList_ofList]

/-- The text of a path is kept whole exactly when it begins with no dot. -/
theorem pathText_eq_intercalate_iff {path : List String}
    : pathText path = String.intercalate "." path
      ↔ (String.intercalate "." path).toList.head? ≠ some '.' := by
  rw [pathText_eq_iff]
  exact and_iff_right ⟨0, rfl⟩

/-- The reported keys are the texts of the unknown paths. -/
theorem mem_unknownKeys_iff {text : String}
    : text ∈ unknownKeys members ↔ ∃ path ∈ unknownPaths members, pathText path = text := by
  rw [unknownKeys, NameMap.mem_names_ofList]
  simp

/-- What a text loads to is decided by the document that it denotes. -/
theorem loadWithDiagnosticsBy_of_read {read? : String → Option (List (String × Toml.Value))}
    {text : String} (parsed : read? text = some members)
    : loadWithDiagnosticsBy read? text
      = (ofDocument members).map (fun config => (config, diagnose members config)) := by
  simp only [loadWithDiagnosticsBy, document, parsed, bind, Except.bind]
  cases ofDocument members <;> rfl

/-- The paths below a section begin with its name. -/
theorem TopmostUnknown.head?_ne_dot (topmost : TopmostUnknown members path)
    (undotted : ∀ key, TopmostUnknown members [key] → key.toList.head? ≠ some '.')
    : (String.intercalate "." path).toList.head? ≠ some '.' := by
  rcases topmostUnknown_iff.mp topmost with ⟨key, value, member, unknown, rfl⟩
    | ⟨name, inner, key, value, member, known, held, unknown, rfl⟩
  · rw [String.intercalate_singleton]
    exact undotted key topmost
  · cases known <;> simp

/-- The report of a document that loads names its topmost unknown keys, in ascending order and once
each, every path without the dots at its front. The paths are written as in the document exactly
when no unknown key at the root begins with a dot. -/
theorem unknownKeys_exact {config : Config} (loaded : ofDocument members = .ok config)
    (timeless : ∀ name written, (name, .moment written) ∈ members → ¬Known [name])
    : (∀ read? text, read? text = some members
          → loadWithDiagnosticsBy read? text = .ok (config, diagnose members config))
      ∧ (diagnose members config).unknownKeys.Pairwise (· < ·)
      ∧ (∀ text,
          text ∈ (diagnose members config).unknownKeys
          ↔ ∃ path,
              TopmostUnknown members path ∧ Undotted (String.intercalate "." path) text)
      ∧ ((∀ text,
            text ∈ (diagnose members config).unknownKeys
            ↔ ∃ path, TopmostUnknown members path ∧ text = String.intercalate "." path)
          ↔ ∀ key, TopmostUnknown members [key] → key.toList.head? ≠ some '.') := by
  have reported (text : String)
      : text ∈ unknownKeys members
        ↔ ∃ path, TopmostUnknown members path ∧ Undotted (String.intercalate "." path) text := by
    simp only [mem_unknownKeys_iff, mem_unknownPaths_iff timeless, pathText_eq_iff]
  refine ⟨?_, NameMap.ascending_names _, reported, ?_, ?_⟩
  · intro read? text parsed
    rw [loadWithDiagnosticsBy_of_read parsed, loaded]
    rfl
  · intro written key topmost
    obtain ⟨path, _, undotted⟩ := (reported key).mp
      ((written key).mpr ⟨[key], topmost, String.intercalate_singleton.symm⟩)
    exact undotted.2
  · intro undotted text
    rw [diagnose, reported]
    refine exists_congr (fun path => and_congr_right (fun topmost => ?_))
    rw [← pathText_eq_iff,
      pathText_eq_intercalate_iff.mpr (topmost.head?_ne_dot undotted), eq_comm]

/-- A document with an unknown table and a misspelt key beside the right one. -/
def misspelt : List (String × Toml.Value) :=
  [("typo", .table [("deep", .integer 1)]),
    ("bounds", .table [("missing_bsae", .text "error"), ("missing_base", .text "warn")])]

theorem unknownKeys_exact_misspelt
    : ofDocument misspelt = .ok { bounds := { missingBase := .warn } }
      ∧ "bounds.missing_bsae" ∈ unknownKeys misspelt
      ∧ "typo" ∈ unknownKeys misspelt
      ∧ ∀ text,
          text ∈ unknownKeys misspelt
          ↔ ∃ path, TopmostUnknown misspelt path ∧ text = String.intercalate "." path := by
  have loaded : ofDocument misspelt = .ok { bounds := { missingBase := .warn } } := rfl
  obtain ⟨-, -, -, written⟩ := unknownKeys_exact loaded
    (by intro name written member; simp [misspelt] at member)
  have all := written.mpr (by
    rintro key ⟨leads, -, -⟩
    cases leads with
    | here member =>
        have either : key = "typo" ∨ key = "bounds" := by
          have named := List.mem_map_of_mem (f := Prod.fst) member
          simpa [misspelt] using named
        rcases either with rfl | rfl <;> decide
    | inside _ below => cases below)
  refine ⟨loaded, (all _).mpr ⟨["bounds", "missing_bsae"], ?_, by decide⟩,
    (all _).mpr ⟨["typo"], ?_, by decide⟩, all⟩
  · exact .of_section (List.mem_cons_of_mem _ List.mem_cons_self) .bounds List.mem_cons_self
      (by decide)
  · exact .of_root List.mem_cons_self (by decide)

/-- A key that begins with a dot is reported without it, by a name that the document does not
hold. -/
theorem unknownKeys_dotted
    : ofDocument [(".x", .integer 1)] = .ok {}
      ∧ (diagnose [(".x", .integer 1)] {}).unknownKeys = ["x"]
      ∧ ¬∀ (members : List (String × Toml.Value)) (config : Config),
          ofDocument members = .ok config
          → (∀ name value, (name, value) ∈ members → Known [name] → ∃ inner, value = .table inner)
          → ∀ text,
              text ∈ (diagnose members config).unknownKeys
              ↔ ∃ path, TopmostUnknown members path ∧ text = String.intercalate "." path := by
  refine ⟨rfl, by decide, ?_⟩
  intro written
  have unknown : ¬Known [".x"] := by decide
  have reported := (written [(".x", .integer 1)] {} rfl (by
      intro name value member known
      cases List.mem_singleton.mp member
      exact absurd known unknown) ".x").mpr
    ⟨[".x"], .of_root List.mem_cons_self unknown, String.intercalate_singleton.symm⟩
  exact absurd reported (by decide)

end Config

end QualifierBindings
