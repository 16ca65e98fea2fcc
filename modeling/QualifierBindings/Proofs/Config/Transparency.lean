import Mathlib.Logic.Relation
import QualifierBindings.Project
import QualifierBindings.Proofs.Config.KnownPart

/-! Diagnostics beside loading. A single pass over a document that notes each key it passes over
reads the same configuration, or fails with the same error, as a pass that takes no notes, and its
notes are the unknown keys. These may be deleted, and others be added with any values, without any
effect on what is loaded.
-/

namespace QualifierBindings

theorem Except.exists_of_map_eq_ok {ε α β : Type} {result : Except ε α} {f : α → β} {value : β}
    (ended : result.map f = .ok value)
    : ∃ found, f found = value := by
  cases result with
  | error error => contradiction
  | ok found => exact ⟨found, Except.ok.inj ended⟩

namespace Config

-----------------------------------------------------------------------------------------
-- Reading and taking notes in one pass
-----------------------------------------------------------------------------------------

/-- A step of a reader that notes the keys that it does not know and leaves the others to `read`. -/
def noteKey {S : Type} (keys : List String) (read : S → String × Toml.Value → Except ShapeError S)
    (state : S × List String) (entry : String × Toml.Value) : Except ShapeError (S × List String) :=
  if keys.contains entry.1 then (read state.1 entry).map (fun part => (part, state.2))
  else .ok (state.1, state.2 ++ [entry.1])

/-- Reading a structure together with the keys of its table that it does not know. -/
def asFieldsNoting {S : Type} (name : String) (keys : List String) (start : S)
    (read : S → String × Toml.Value → Except ShapeError S) (value : Toml.Value)
    : Except ShapeError (S × List String) :=
  match value.members?, value.items? with
  | some members, _ => members.foldlM (noteKey keys read) (start, [])
  | none, some items => ((keys.zip items).foldlM read start).map (fun part => (part, []))
  | none, none => value.mismatch ("struct " ++ name)

/-- What is reached when a section was read: the configuration with it, and the paths of the keys
passed over in it after those noted before. -/
def withSection {S : Type} (name : String) (put : S → Config) (noted : List (List String))
    (part : S × List String) : Config × List (List String) :=
  (put part.1, noted ++ part.2.map (fun key => [name, key]))

/-- A step of reading a document that notes the paths of the keys passed over. -/
def noteEntry (state : Config × List (List String)) (entry : String × Toml.Value)
    : Except ShapeError (Config × List (List String)) :=
  match entry.1 with
  | "annotations" =>
      (asFieldsNoting "AnnotationsConfig" AnnotationSection.keys {} AnnotationSection.readEntry
        entry.2).map
        (withSection "annotations" (fun annotations => { state.1 with annotations }) state.2)
  | "bounds" =>
      (asFieldsNoting "BoundsConfig" BoundSection.keys {} BoundSection.readEntry entry.2).map
        (withSection "bounds" (fun bounds => { state.1 with bounds }) state.2)
  | "logging" =>
      (asFieldsNoting "LoggingConfig" LogSection.keys {} LogSection.readEntry entry.2).map
        (withSection "logging" (fun logging => { state.1 with logging }) state.2)
  | name => .ok (state.1, state.2 ++ [[name]])

/-- The keys of a table that are not among the given ones. -/
def unreadKeys (keys : List String) (value : Toml.Value) : List String :=
  ((value.members?.getD []).filter (fun member => !keys.contains member.1)).map Prod.fst

/-- What is noted step by step does not change what is read. -/
theorem foldlM_noteKey {S : Type} {keys : List String}
    {read : S → String × Toml.Value → Except ShapeError S} (passes : PassesOver keys read)
    (members : List (String × Toml.Value)) (start : S) (noted : List String)
    : members.foldlM (noteKey keys read) (start, noted)
      = (members.foldlM read start).map (fun part =>
          (part,
            noted ++ (members.filter (fun member => !keys.contains member.1)).map Prod.fst)) := by
  induction members generalizing start noted with
  | nil => simp [pure, Except.pure, Except.map]
  | cons entry rest ih =>
      rw [List.foldlM_cons, List.foldlM_cons, noteKey]
      by_cases known : entry.1 ∈ keys
      · rw [if_pos (by simpa using known)]
        cases read start entry with
        | error error => rfl
        | ok part => simp [Except.map, bind, Except.bind, ih, known]
      · rw [if_neg (by simpa using known), passes start entry known]
        simp [bind, Except.bind, ih, known]

/-- Taking notes changes nothing about reading a section, and the notes are its unread keys. -/
theorem asFieldsNoting_eq {S : Type} {keys : List String}
    {read : S → String × Toml.Value → Except ShapeError S} (passes : PassesOver keys read)
    (name : String) (start : S) (value : Toml.Value)
    : asFieldsNoting name keys start read value
      = (value.asFields name keys start read).map (fun part => (part, unreadKeys keys value)) := by
  unfold asFieldsNoting Toml.Value.asFields unreadKeys
  cases value.members? with
  | some members => exact foldlM_noteKey passes members start []
  | none => cases value.items? <;> rfl

/-- Below a section the unknown paths are those of its unread keys. -/
theorem unknownBelow_of_section {name : String} {keys : List String}
    (found : sectionKeys? name = some keys) (value : Toml.Value)
    : unknownBelow (name, value) = (unreadKeys keys value).map (fun key => [name, key]) := by
  unfold unknownBelow unreadKeys
  rw [found]
  cases value.members? with
  | none => rfl
  | some members => simp

/-- A section that is read with notes adds the unknown paths below it to the notes. -/
theorem map_withSection {S : Type} {name : String} {keys : List String}
    (found : sectionKeys? name = some keys) (put : S → Config) (noted : List (List String))
    (value : Toml.Value) (ended : Except ShapeError S)
    : (ended.map (fun part => (part, unreadKeys keys value))).map (withSection name put noted)
      = (ended.map put).map (fun config => (config, noted ++ unknownBelow (name, value))) := by
  rw [unknownBelow_of_section found]
  cases ended <;> rfl

/-- A step that takes notes reads what a plain step reads, and notes what is unknown below the
entry. -/
theorem noteEntry_eq (config : Config) (noted : List (List String)) (entry : String × Toml.Value)
    : noteEntry (config, noted) entry
      = (readEntry config entry).map (fun config => (config, noted ++ unknownBelow entry)) := by
  obtain ⟨name, value⟩ := entry
  by_cases known : Known [name]
  · cases known with
    | annotations =>
        simp only [noteEntry, asFieldsNoting_eq AnnotationSection.passesOver]
        exact map_withSection rfl _ noted value _
    | bounds =>
        simp only [noteEntry, asFieldsNoting_eq BoundSection.passesOver]
        exact map_withSection rfl _ noted value _
    | logging =>
        simp only [noteEntry, asFieldsNoting_eq LogSection.passesOver]
        exact map_withSection rfl _ noted value _
  · rw [readEntry_of_unknown known]
    unfold noteEntry
    split
    · simp_all [Known.annotations]
    · simp_all [Known.bounds]
    · simp_all [Known.logging]
    · simp [unknownBelow, sectionKeys?_eq_none_iff.mpr known, Except.map]

/-- The notes of a whole pass are the unknown paths of the document, by induction on its members. -/
theorem foldlM_noteEntry (members : List (String × Toml.Value)) (config : Config)
    (noted : List (List String))
    : members.foldlM noteEntry (config, noted)
      = (members.foldlM readEntry config).map (fun config =>
          (config, noted ++ unknownPaths members)) := by
  induction members generalizing config noted with
  | nil => simp [pure, Except.pure, Except.map, unknownPaths]
  | cons entry rest ih =>
      rw [List.foldlM_cons, List.foldlM_cons, noteEntry_eq]
      cases readEntry config entry with
      | error error => rfl
      | ok next => simp [Except.map, bind, Except.bind, ih, unknownPaths]

-----------------------------------------------------------------------------------------
-- Adding unknown keys
-----------------------------------------------------------------------------------------

/-- One key without a meaning is added to a document, with any value and at any place: at the root,
in the table of a section, or in a table for a section that the document did not have. -/
inductive Adds : List (String × Toml.Value) → List (String × Toml.Value) → Prop where
  | root {key : String} (unknown : ¬Known [key]) (value : Toml.Value)
    (front back : List (String × Toml.Value))
    : Adds (front ++ back) (front ++ (key, value) :: back)
  | inside {name key : String} (unknown : ¬Known [name, key]) (value : Toml.Value)
    (front back left right : List (String × Toml.Value))
    : Adds (front ++ (name, .table (left ++ right)) :: back)
        (front ++ (name, .table (left ++ (key, value) :: right)) :: back)
  | opening {name key : String} (known : Known [name]) (unknown : ¬Known [name, key])
    (value : Toml.Value) {front back : List (String × Toml.Value)}
    (absent : ∀ entry ∈ front ++ back, entry.1 ≠ name)
    : Adds (front ++ back) (front ++ (name, .table [(key, value)]) :: back)

/-- Whether a section, if there is one of the name, is as it is by default. -/
def Untouched : String → Config → Prop
  | "annotations", config => config.annotations = {}
  | "bounds", config => config.bounds = {}
  | "logging", config => config.logging = {}
  | _, _ => True

/-- A step with an entry of another name leaves a section at its default. -/
theorem Untouched.readEntry {name : String} (known : Known [name]) {config next : Config}
    {entry : String × Toml.Value} (untouched : Untouched name config) (other : entry.1 ≠ name)
    (read : readEntry config entry = .ok next)
    : Untouched name next := by
  unfold Config.readEntry at read
  split at read
  · rename_i own
    obtain ⟨part, rfl⟩ := Except.exists_of_map_eq_ok read
    cases known with
    | annotations => exact absurd own other
    | bounds | logging => exact untouched
  · rename_i own
    obtain ⟨part, rfl⟩ := Except.exists_of_map_eq_ok read
    cases known with
    | bounds => exact absurd own other
    | annotations | logging => exact untouched
  · rename_i own
    obtain ⟨part, rfl⟩ := Except.exists_of_map_eq_ok read
    cases known with
    | logging => exact absurd own other
    | annotations | bounds => exact untouched
  · cases read
    exact untouched

/-- A section that no member names stays at its default. -/
theorem untouched_of_foldlM {name : String} (known : Known [name])
    {members : List (String × Toml.Value)} (absent : ∀ entry ∈ members, entry.1 ≠ name)
    {start config : Config} (untouched : Untouched name start)
    (read : members.foldlM readEntry start = .ok config)
    : Untouched name config := by
  induction members generalizing start with
  | nil =>
      cases read
      exact untouched
  | cons entry rest ih =>
      obtain ⟨other, others⟩ := List.forall_mem_cons.mp absent
      rw [List.foldlM_cons] at read
      cases first : readEntry start entry with
      | error error => simp [first, bind, Except.bind] at read
      | ok next =>
          rw [first] at read
          exact ih others (untouched.readEntry known other first) read

/-- A section with nothing but an unknown key stays at its default. -/
theorem asFields_of_unknown {S : Type} {keys : List String}
    {read : S → String × Toml.Value → Except ShapeError S} (passes : PassesOver keys read)
    {key : String} (unread : key ∉ keys) (name : String) (start : S) (value : Toml.Value)
    : (Toml.Value.table [(key, value)]).asFields name keys start read = .ok start := by
  simp [Toml.Value.asFields, Toml.Value.members?, passes start (key, value) unread]

/-- A table of an unknown key in the place of a section at its default changes nothing. -/
theorem readEntry_of_untouched {name key : String} (known : Known [name])
    (unknown : ¬Known [name, key]) {config : Config} (untouched : Untouched name config)
    (value : Toml.Value)
    : readEntry config (name, .table [(key, value)]) = .ok config := by
  obtain ⟨keys, found⟩ := known_section_iff.mp known
  rw [known_entry_iff_mem found] at unknown
  cases known with
  | annotations =>
      cases found
      have same : config.annotations = {} := untouched
      simp only [readEntry, AnnotationSection.ofToml, Except.map,
        asFields_of_unknown AnnotationSection.passesOver unknown, ← same]
  | bounds =>
      cases found
      have same : config.bounds = {} := untouched
      simp only [readEntry, BoundSection.ofToml, Except.map,
        asFields_of_unknown BoundSection.passesOver unknown, ← same]
  | logging =>
      cases found
      have same : config.logging = {} := untouched
      simp only [readEntry, LogSection.ofToml, Except.map,
        asFields_of_unknown LogSection.passesOver unknown, ← same]

/-- Documents with one known part are read alike. -/
theorem ofTable_eq_of_knownPart_eq {left right : List (String × Toml.Value)}
    (same : knownPart left = knownPart right)
    : ofTable left = ofTable right := by
  rw [← ofTable_knownPart left, same, ofTable_knownPart]

/-- An added key changes nothing about reading, which may also fail as before. -/
theorem Adds.ofTable_eq {before after : List (String × Toml.Value)} (added : Adds before after)
    : ofTable after = ofTable before := by
  cases added with
  | @root key unknown value front back =>
      have dropped : knownMember? (key, value) = none :=
        Option.map_eq_none_iff.mpr (sectionKeys?_eq_none_iff.mpr unknown)
      apply ofTable_eq_of_knownPart_eq
      simp only [knownPart, List.filterMap_append, List.filterMap_cons, dropped]
  | @inside name key unknown value front back left right =>
      have same
          : knownMember? (name, .table (left ++ (key, value) :: right))
            = knownMember? (name, .table (left ++ right)) := by
        unfold knownMember?
        cases found : sectionKeys? name with
        | none => rfl
        | some keys =>
            rw [known_entry_iff_mem found] at unknown
            simp [Toml.Value.restrict, unknown]
      apply ofTable_eq_of_knownPart_eq
      simp only [knownPart, List.filterMap_append, List.filterMap_cons, same]
  | @opening name key known unknown value front back absent =>
      rw [ofTable, ofTable, List.foldlM_append, List.foldlM_append]
      cases reached : front.foldlM Config.readEntry {} with
      | error error => rfl
      | ok config =>
          have untouched : Untouched name config :=
            untouched_of_foldlM known (fun entry member => absent entry (by simp [member]))
              (by cases known <;> rfl) reached
          simp only [bind, Except.bind, List.foldlM_cons,
            readEntry_of_untouched known unknown untouched value]

/-- Any number of added keys changes nothing about reading. -/
theorem ofTable_of_adds {before after : List (String × Toml.Value)}
    (added : Relation.ReflTransGen Adds before after)
    : ofTable after = ofTable before := by
  induction added with
  | refl => rfl
  | tail _ step ih => exact step.ofTable_eq.trans ih

/-- A document loads when its table is read. -/
theorem ofDocument_eq_ok_iff {members : List (String × Toml.Value)} {config : Config}
    : ofDocument members = .ok config ↔ ofTable members = .ok config := by
  unfold ofDocument
  cases ofTable members <;> simp

/-- Nothing is reported exactly when there is no unknown path. -/
theorem unknownKeys_eq_nil_iff {members : List (String × Toml.Value)}
    : unknownKeys members = [] ↔ unknownPaths members = [] := by
  simp only [List.eq_nil_iff_forall_not_mem, mem_unknownKeys_iff]
  constructor
  · intro silent path member
    exact silent _ ⟨path, member, rfl⟩
  · rintro silent text ⟨path, member, -⟩
    exact silent path member

/-- Diagnostics come on top of what loading gives. -/
theorem map_fst_loadWithDiagnosticsBy (read? : String → Option (List (String × Toml.Value)))
    (text : String)
    : (loadWithDiagnosticsBy read? text).map Prod.fst = loadBy read? text := by
  simp only [loadWithDiagnosticsBy, loadBy, bind, Except.bind]
  cases document read? text with
  | error error => rfl
  | ok members =>
      dsimp only
      cases ofDocument members <;> rfl

/-- Of a document nothing but its unknown keys counts for the diagnostics of a configuration. -/
theorem diagnose_eq_with_unknownKeys (before after : List (String × Toml.Value)) (config : Config)
    : diagnose after config
      = { diagnose before config with unknownKeys := unknownKeys after } := by
  simp only [diagnose]

/-- Loading with diagnostics succeeds when plain loading does, with the same configuration, and
otherwise fails with the same error; a pass that takes notes while it reads shows it for every
document. When the unknown keys of a document are deleted, exactly the paths that have a meaning
are left, and it loads to the same configuration with the same problems; no unknown keys are
reported any more unless a date or a time stands in the place of a section. Unknown keys that are
added change nothing either. -/
theorem diagnostics_transparent (read? : String → Option (List (String × Toml.Value)))
    (project : Project) (path text : String) (members : List (String × Toml.Value))
    : (project.loadFileWithDiagnosticsBy read? path).map Prod.fst = project.loadFileBy read? path
      ∧ (loadWithDiagnosticsBy read? text).map Prod.fst = loadBy read? text
      ∧ (read? text = some members
          → loadWithDiagnosticsBy read? text
            = (ofDocument members).map (fun config => (config, diagnose members config)))
      ∧ members.foldlM noteEntry ({}, [])
        = (ofTable members).map (fun config => (config, unknownPaths members))
      ∧ ∀ config, ofDocument members = .ok config
          → (∀ path, Toml.Leads (knownPart members) path ↔ Toml.Leads members path ∧ Known path)
            ∧ ofDocument (knownPart members) = .ok config
            ∧ diagnose (knownPart members) config
              = { diagnose members config with unknownKeys := unknownKeys (knownPart members) }
            ∧ (unknownKeys (knownPart members) = []
              ↔ ∀ name written, (name, .moment written) ∈ members → ¬Known [name])
            ∧ ∀ after, Relation.ReflTransGen Adds members after
                → ofDocument after = .ok config
                  ∧ diagnose after config
                    = { diagnose members config with unknownKeys := unknownKeys after } := by
  refine ⟨?_, map_fst_loadWithDiagnosticsBy read? text, loadWithDiagnosticsBy_of_read,
    foldlM_noteEntry members {} [], ?_⟩
  · simp only [Project.loadFileWithDiagnosticsBy, Project.loadFileBy, bind, Except.bind]
    cases project.readFile path with
    | error error => rfl
    | ok text => exact map_fst_loadWithDiagnosticsBy read? text
  · intro config loaded
    refine ⟨fun _ => leads_knownPart_iff, ?_, diagnose_eq_with_unknownKeys members _ config,
      unknownKeys_eq_nil_iff.trans unknownPaths_knownPart_eq_nil_iff, ?_⟩
    · rw [ofDocument_eq_ok_iff] at loaded ⊢
      rw [ofTable_knownPart, loaded]
    · intro after added
      refine ⟨?_, diagnose_eq_with_unknownKeys members after config⟩
      rw [ofDocument_eq_ok_iff] at loaded ⊢
      rw [ofTable_of_adds added, loaded]

/-- The keys that have no meaning are deleted at both levels; a section of such a key is added. -/
theorem diagnostics_transparent_misspelt
    : ofDocument misspelt = .ok { bounds := { missingBase := .warn } }
      ∧ ofDocument (knownPart misspelt) = .ok { bounds := { missingBase := .warn } }
      ∧ unknownKeys (knownPart misspelt) = []
      ∧ ofDocument (misspelt ++ [("logging", .table [("levl", .integer 1)])])
        = .ok { bounds := { missingBase := .warn } } := by
  have loaded : ofDocument misspelt = .ok { bounds := { missingBase := .warn } } := rfl
  obtain ⟨-, -, -, -, deleted⟩ :=
    diagnostics_transparent Toml.parse? ⟨"/", ⟨[], []⟩⟩ "qualpoly.toml" "" misspelt
  obtain ⟨-, same, -, silent, added⟩ := deleted _ loaded
  have step : Adds (misspelt ++ []) (misspelt ++ [("logging", .table [("levl", .integer 1)])]) :=
    .opening .logging (by decide) _ (by simp [misspelt])
  rw [List.append_nil] at step
  obtain ⟨opened, -⟩ := added _ (.single step)
  refine ⟨loaded, same, silent.mpr ?_, opened⟩
  intro name written member
  simp [misspelt] at member

/-- Nothing can be deleted from a document whose only section is a date, but an unknown key is
reported for it. -/
theorem unknownKeys_of_date
    : ofDocument [("bounds", .moment "1979-05-27")] = .ok {}
      ∧ knownPart [("bounds", .moment "1979-05-27")] = [("bounds", .moment "1979-05-27")]
      ∧ unknownKeys [("bounds", .moment "1979-05-27")] = ["bounds.$__toml_private_datetime"]
      ∧ ¬∀ members config, ofDocument members = .ok config
          → (diagnose (knownPart members) config).unknownKeys = [] := by
  refine ⟨rfl, rfl, by decide, ?_⟩
  intro silent
  have nothing := silent [("bounds", .moment "1979-05-27")] {} rfl
  exact absurd nothing (by decide)

end Config

end QualifierBindings
