import QualifierBindings.Config.Validation

/-! The two sources of the log filter, the configured level and the directives of the environment,
do not spoil each other: the filter has the directives of each of them that can be read. The level
is reported exactly when the filter never takes notice of it. All of this holds for any way of
reading single directives that can read the default one.
-/

namespace QualifierBindings

namespace LogFilter

variable {D : Type} (read? : List Char → Option D)

/-- Directives on both sides of a comma are read independently. -/
theorem readAll?_append_comma (left right : String)
    : readAll? read? (left ++ "," ++ right)
      = (readAll? read? left).bind (fun own =>
          (readAll? read? right).map (fun others => own ++ others)) := by
  have joined : (left ++ "," ++ right).toList = left.toList ++ ',' :: right.toList := by simp
  unfold readAll?
  rw [joined, Text.split_append_separator, List.filter_append, List.mapM_append]
  cases ((Text.split ',' left.toList).filter (fun piece => !piece.isEmpty)).mapM read? with
  | none => rfl
  | some own =>
      cases ((Text.split ',' right.toList).filter (fun piece => !piece.isEmpty)).mapM read? with
      | none => rfl
      | some others => rfl

/-- The default directive can be read as a list of its own. -/
theorem readAll?_info {read? : List Char → Option D} {info : D}
    (reads : read? "info".toList = some info)
    : readAll? read? "info" = some [info] := by
  have pieces : (Text.split ',' "info".toList).filter (fun piece => !piece.isEmpty)
      = ["info".toList] := by
    decide
  rw [readAll?, pieces, List.mapM_cons, reads]
  rfl

end LogFilter

namespace Config

namespace LogSection

/-- The text with its letters from A to Z in lower case. -/
def lowered (text : String) : String :=
  String.ofList (text.toList.map Char.toLower)

/-- Blanks have no case. -/
theorem lowered_trim (text : String) : lowered (Text.trim text) = Text.trim (lowered text) := by
  simp only [lowered, Text.trim, String.toList_ofList, Text.trimChars_map Text.isBlank_toLower]

/-- A level that is one of the names of levels, blanks around it and the case of letters aside. -/
def IsLevelName (level : String) : Prop :=
  lowered (Text.trim level) ∈ ["trace", "debug", "info", "warn", "warning", "error"]

/-- The names of levels are those of the table. -/
theorem isLevelName_iff (level : String)
    : IsLevelName level ↔ ∃ name, levelNames.lookup (lowered (Text.trim level)) = some name := by
  have names : levelNames.map Prod.fst = ["trace", "debug", "info", "warn", "warning", "error"] :=
    rfl
  rw [← Option.isSome_iff_exists, List.lookup_isSome_iff, IsLevelName, ← names, List.mem_map]
  exact exists_congr (fun entry => and_congr_right (fun _ => eq_comm.trans beq_iff_eq.symm))

/-- A level depends on its characters between the blanks only. -/
theorem normalizeLevel_of_trim_eq {level other : String} (same : Text.trim level = Text.trim other)
    : normalizeLevel level = normalizeLevel other := by
  rw [normalizeLevel, normalizeLevel, same]

/-- A blank level stands for the default one. -/
theorem normalizeLevel_of_blank {level : String} (blank : (Text.trim level).isEmpty = true)
    : normalizeLevel level = defaultLevel :=
  if_pos blank

/-- A name in the table is replaced by its usual spelling. -/
theorem normalizeLevel_of_named {level name : String}
    (named : levelNames.lookup (lowered (Text.trim level)) = some name)
    : normalizeLevel level = name := by
  have filled : (Text.trim level).isEmpty = false := by
    rw [Bool.eq_false_iff]
    intro blank
    rw [String.isEmpty_iff.mp blank] at named
    contradiction
  rw [lowered] at named
  simp only [normalizeLevel, filled, named, Bool.false_eq_true, if_false]

/-- Other directives lose the blanks around them only. -/
theorem normalizeLevel_of_not_isLevelName {level : String}
    (filled : (Text.trim level).isEmpty = false) (other : ¬IsLevelName level)
    : normalizeLevel level = Text.trim level := by
  have unnamed : levelNames.lookup (lowered (Text.trim level)) = none := by
    rw [isLevelName_iff, not_exists] at other
    exact Option.eq_none_iff_forall_ne_some.mpr other
  rw [lowered] at unnamed
  simp only [normalizeLevel, filled, unnamed, Bool.false_eq_true, if_false]

/-- What a level is normalized to: a blank one to the default, a name to its usual spelling, any
other directives to themselves without the blanks around them. -/
theorem normalizeLevel_exact (level : String)
    : (Text.trim level = "" → normalizeLevel level = "info")
      ∧ (lowered (Text.trim level) ∈ ["trace", "debug", "info", "warn", "error"]
        → normalizeLevel level = lowered (Text.trim level))
      ∧ (lowered (Text.trim level) = "warning" → normalizeLevel level = "warn")
      ∧ (Text.trim level ≠ "" → ¬IsLevelName level → normalizeLevel level = Text.trim level) := by
  refine ⟨?_, ?_, ?_, ?_⟩
  · intro blank
    exact normalizeLevel_of_blank (String.isEmpty_iff.mpr blank)
  · intro usual
    have itself : ∀ name ∈ ["trace", "debug", "info", "warn", "error"],
        levelNames.lookup name = some name := by
      decide
    exact normalizeLevel_of_named (itself _ usual)
  · intro long
    apply normalizeLevel_of_named
    rw [long]
    rfl
  · intro filled other
    have nonempty : (Text.trim level).isEmpty = false := by
      rw [Bool.eq_false_iff, ne_eq, String.isEmpty_iff]
      exact filled
    exact normalizeLevel_of_not_isLevelName nonempty other

/-- Normal forms are normal: the default level and the usual spellings are their own normal forms,
and trimming again changes nothing. -/
theorem normalizeLevel_normalizeLevel (level : String)
    : normalizeLevel (normalizeLevel level) = normalizeLevel level := by
  have usual : ∀ entry ∈ levelNames, normalizeLevel entry.2 = entry.2 := by decide
  cases blank : (Text.trim level).isEmpty with
  | true =>
      rw [normalizeLevel_of_blank blank]
      decide
  | false =>
      by_cases known : IsLevelName level
      · obtain ⟨name, named⟩ := (isLevelName_iff level).mp known
        obtain ⟨earlier, later, place, -⟩ := List.lookup_eq_some_iff.mp named
        rw [normalizeLevel_of_named named]
        exact usual (lowered (Text.trim level), name) (by rw [place]; simp)
      · have trimmed := normalizeLevel_of_not_isLevelName blank known
        rw [trimmed, normalizeLevel_of_trim_eq (Text.trim_trim level), trimmed]

/-- Ways of writing a level that make no difference: its normal form, blanks around it, and another
case of the letters of a name. -/
inductive Respelled (level : String) : String → Prop
  | normalized : Respelled level (normalizeLevel level)
  | padded {before after : String}
      (blankBefore : ∀ c ∈ before.toList, Text.isBlank c = true)
      (blankAfter : ∀ c ∈ after.toList, Text.isBlank c = true)
      : Respelled level (before ++ level ++ after)
  | recased {other : String} (known : IsLevelName level) (same : lowered other = lowered level)
      : Respelled level other

/-- Levels that are written in different ways have one normal form. -/
theorem Respelled.normalizeLevel_eq {level other : String} (respelled : Respelled level other)
    : normalizeLevel other = normalizeLevel level := by
  cases respelled with
  | normalized => exact normalizeLevel_normalizeLevel level
  | padded blankBefore blankAfter =>
      exact normalizeLevel_of_trim_eq (Text.trim_pad level blankBefore blankAfter)
  | recased known same =>
      obtain ⟨name, named⟩ := (isLevelName_iff level).mp known
      have inner : lowered (Text.trim other) = lowered (Text.trim level) := by
        rw [lowered_trim, lowered_trim, same]
      have namedOther := named
      rw [← inner] at namedOther
      rw [normalizeLevel_of_named namedOther, normalizeLevel_of_named named]

section Sources

variable {D : Type} (read? : List Char → Option D)

/-- The directives that the level gives by itself, when it can be read. -/
def ownDirectives? (part : LogSection) : Option (List D) :=
  LogFilter.readAll? read? (normalizeLevel part.level)

/-- The directives that the environment gives by itself, when it is there and can be read. Blanks
around them do not count, and blanks alone are as good as nothing. -/
def givenDirectives? (environment : Option String) : Option (List D) :=
  match environment with
  | none => none
  | some text =>
      if Text.trim text = "" then none else LogFilter.readAll? read? (Text.trim text)

/-- A blank environment has no directives. -/
theorem environmentDirectives_of_blank {text : String} (blank : Text.trim text = "")
    : environmentDirectives (some text) = none := by
  rw [environmentDirectives, Option.map_some, blank]
  rfl

/-- Any other environment has those between its blanks. -/
theorem environmentDirectives_of_filled {text : String} (filled : Text.trim text ≠ "")
    : environmentDirectives (some text) = some (Text.trim text) := by
  rw [environmentDirectives, Option.map_some, Option.filter_some]
  simp [filled]

/-- The environment is read as it is given: trimmed, and left out when nothing is left. -/
theorem bind_environmentDirectives (environment : Option String)
    : (environmentDirectives environment).bind (LogFilter.readAll? read?)
      = givenDirectives? read? environment := by
  cases environment with
  | none => rfl
  | some text =>
      by_cases blank : Text.trim text = ""
      · rw [environmentDirectives_of_blank blank, givenDirectives?, if_pos blank, Option.bind_none]
      · rw [environmentDirectives_of_filled blank, givenDirectives?, if_neg blank,
          Option.bind_some]

/-- The first candidate that can be read has the directives of every source that can be read. -/
theorem directives_eq (info : D) (part : LogSection) (environment : Option String)
    : part.directives read? info environment
      = match ownDirectives? read? part, givenDirectives? read? environment with
        | some own, some given => own ++ given
        | some own, none => own
        | none, some given => given
        | none, none => [info] := by
  rw [directives, candidates, ownDirectives?, ← bind_environmentDirectives]
  cases environmentDirectives environment with
  | none =>
      cases own : LogFilter.readAll? read? (normalizeLevel part.level) with
      | none => simp [own]
      | some directives => simp [own]
  | some text =>
      simp only [Option.bind_some, List.findSome?_cons, LogFilter.readAll?_append_comma]
      cases LogFilter.readAll? read? (normalizeLevel part.level) with
      | none => cases LogFilter.readAll? read? text <;> rfl
      | some own => cases LogFilter.readAll? read? text <;> rfl

example
    : LogSection.directives Directive.parse? (.upTo .info) { level := "WARNING" }
        (some "qualpoly=loud")
      = [.upTo .warn] := by
  decide

/-- The level makes no difference, whatever the environment holds. -/
def Ignored (info : D) (part : LogSection) : Prop :=
  ∀ environment,
    part.directives read? info environment = (givenDirectives? read? environment).getD [info]

/-- A level that can be read makes a difference in an empty environment or, when it gives no
directive, in one that asks for the default level. -/
theorem ignored_iff {read? : List Char → Option D} {info : D}
    (reads : read? "info".toList = some info) (part : LogSection)
    : part.Ignored read? info ↔ part.ownDirectives? read? = none := by
  constructor
  · intro ignored
    cases readable : part.ownDirectives? read? with
    | none => rfl
    | some own =>
        have absent : givenDirectives? read? none = none := rfl
        have given : givenDirectives? read? (some "info") = some [info] :=
          LogFilter.readAll?_info reads
        have alone := ignored none
        have together := ignored (some "info")
        rw [directives_eq, readable, absent, Option.getD_none] at alone
        rw [directives_eq, readable, given, Option.getD_some] at together
        simp [alone] at together
  · intro unreadable environment
    rw [directives_eq, unreadable]
    cases givenDirectives? read? environment with
    | none => rfl
    | some given => rfl

end Sources

end LogSection

section Sources

variable {D : Type} {read? : List Char → Option D} {info : D}

/-- Validation reports the levels that cannot be read: the blank ones stand for the default one,
which can. -/
theorem levelWarningsBy_eq (reads : read? "info".toList = some info) (config : Config)
    : config.levelWarningsBy read?
      = match config.logging.ownDirectives? read? with
        | some _ => []
        | none =>
            [{ value := config.logging.level,
               normalized := LogSection.normalizeLevel config.logging.level }] := by
  rw [levelWarningsBy, LogSection.ownDirectives?]
  cases blank : (Text.trim config.logging.level).isEmpty with
  | true =>
      rw [LogSection.normalizeLevel_of_blank blank, defaultLevel,
        LogFilter.readAll?_info reads]
      rfl
  | false =>
      cases LogFilter.readAll? read? (LogSection.normalizeLevel config.logging.level) with
      | none => rfl
      | some own => rfl

/-- A level is reported exactly when it cannot be read. -/
theorem levelWarningsBy_ne_nil_iff (reads : read? "info".toList = some info) (config : Config)
    : config.levelWarningsBy read? ≠ [] ↔ config.logging.ownDirectives? read? = none := by
  rw [levelWarningsBy_eq reads]
  cases config.logging.ownDirectives? read? with
  | none => simp
  | some own => simp

/-- The sources of the filter are judged one by one: its directives are those of the normalized
level, if it can be read, followed by those of the trimmed environment, if there are any that can be
read, or else the default one. Validation reports exactly the levels that cannot be read, which are
the ones that never make a difference. Writing a level in another way changes neither the filter
nor the report. -/
theorem logging_sources_exact (reads : read? "info".toList = some info) (config : Config)
    : (∀ environment,
        config.logging.directives read? info environment
        = match config.logging.ownDirectives? read?,
              LogSection.givenDirectives? read? environment with
          | some own, some given => own ++ given
          | some own, none => own
          | none, some given => given
          | none, none => [info])
      ∧ config.levelWarningsBy read?
        = (match config.logging.ownDirectives? read? with
          | some _ => []
          | none =>
              [{ value := config.logging.level,
                 normalized := LogSection.normalizeLevel config.logging.level }])
      ∧ (config.levelWarningsBy read? ≠ [] ↔ config.logging.Ignored read? info)
      ∧ (let level := config.logging.level
         (Text.trim level = "" → LogSection.normalizeLevel level = "info")
         ∧ (LogSection.lowered (Text.trim level) ∈ ["trace", "debug", "info", "warn", "error"]
            → LogSection.normalizeLevel level = LogSection.lowered (Text.trim level))
         ∧ (LogSection.lowered (Text.trim level) = "warning"
            → LogSection.normalizeLevel level = "warn")
         ∧ (Text.trim level ≠ "" → ¬LogSection.IsLevelName level
            → LogSection.normalizeLevel level = Text.trim level))
      ∧ LogSection.normalizeLevel (LogSection.normalizeLevel config.logging.level)
        = LogSection.normalizeLevel config.logging.level
      ∧ ∀ other,
        LogSection.Respelled config.logging.level other →
          let respelled : Config := { config with logging.level := other }
          (∀ environment,
            respelled.logging.directives read? info environment
            = config.logging.directives read? info environment)
          ∧ (respelled.levelWarningsBy read? ≠ [] ↔ config.levelWarningsBy read? ≠ []) := by
  refine ⟨config.logging.directives_eq read? info, levelWarningsBy_eq reads config, ?_,
    LogSection.normalizeLevel_exact config.logging.level,
    LogSection.normalizeLevel_normalizeLevel config.logging.level, ?_⟩
  · rw [levelWarningsBy_ne_nil_iff reads, LogSection.ignored_iff reads]
  · intro other spelled respelled
    have own : respelled.logging.ownDirectives? read? = config.logging.ownDirectives? read? := by
      rw [LogSection.ownDirectives?, LogSection.ownDirectives?]
      exact congrArg (LogFilter.readAll? read?) spelled.normalizeLevel_eq
    constructor
    · intro environment
      rw [LogSection.directives_eq, LogSection.directives_eq, own]
    · rw [levelWarningsBy_ne_nil_iff reads, levelWarningsBy_ne_nil_iff reads, own]

end Sources

/-- A level with a threshold that does not exist is reported and never taken notice of. The
directive of the environment counts without the blanks around it, and blanks alone count as little
as no environment. -/
theorem logging_sources_exact_loud
    : Directive.parse? "info".toList = some (.upTo .info)
      ∧ (let config : Config := { logging.level := "qualpoly=loud" }
         config.levelWarnings = [{ value := "qualpoly=loud", normalized := "qualpoly=loud" }]
         ∧ (∀ environment,
              (config.logging.filter environment).directives
              = (LogSection.givenDirectives? Directive.parse? environment).getD [.upTo .info])
         ∧ (config.logging.filter (some "  debug\t")).directives = [.upTo .debug]
         ∧ (config.logging.filter (some " \t ")).directives = [.upTo .info]
         ∧ (config.logging.filter none).directives = [.upTo .info]) := by
  have reads : Directive.parse? "info".toList = some (.upTo .info) := by decide
  refine ⟨reads, ?_⟩
  intro config
  obtain ⟨sources, -, ignored_iff, -⟩ := logging_sources_exact reads config
  have reported : config.levelWarnings
      = [{ value := "qualpoly=loud", normalized := "qualpoly=loud" }] := by
    decide
  have filtered (environment : Option String)
      : (config.logging.filter environment).directives
        = config.logging.directives Directive.parse? (.upTo .info) environment :=
    rfl
  refine ⟨reported, ignored_iff.mp ?_, ?_, ?_, ?_⟩
  · rw [← levelWarnings, reported]
    exact List.cons_ne_nil _ _
  · rw [filtered, sources]
    decide
  · rw [filtered, sources]
    decide
  · rw [filtered, sources]
    decide

end Config

end QualifierBindings
