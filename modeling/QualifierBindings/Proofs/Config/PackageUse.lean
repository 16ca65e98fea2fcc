import QualifierBindings.Proofs.Annotation.MarkerNames
import QualifierBindings.Proofs.Config.PackageGrammar
import QualifierBindings.Proofs.Conversion.Support

/-! Packages that pass validation, and the annotations written with their names. An annotation that
is built from a name loses one leading `@` of it, while the package stays as it is configured. So a
package serves its purpose exactly when it does not begin with that sign; otherwise none of its
annotations is recognised. Validation does not look for the sign.
-/

namespace QualifierBindings

variable {Q : Type}

namespace Config

/-- A sign in front of a package that is accepted is accepted as well: it makes the first segment
longer. -/
theorem packageFault?_sign {package : String} (accepted : packageFault? package = none)
    : packageFault? ("@" ++ package) = none := by
  obtain ⟨segments, unblank⟩ := packageFault?_eq_none_iff.mp accepted
  have signed : ("@" ++ package).toList = '@' :: package.toList := by simp
  obtain ⟨first, others, cut⟩ :=
    List.exists_cons_of_ne_nil (List.splitOn_ne_nil '.' package.toList)
  rw [cut] at segments
  rw [packageFault?_eq_none_iff, DottedName, signed, List.splitOn_cons_eq_if_modifyHead, cut,
    if_neg (by decide), List.modifyHead_cons]
  refine ⟨?_, List.forall_mem_cons.mpr ⟨by decide, unblank⟩⟩
  simp only [List.mem_cons, not_or] at segments ⊢
  exact ⟨by simp, segments.2⟩

end Config

/-- All names of a package begin with it and a dot. -/
theorem Marker.Names.under_package {package name : String} {marker : Marker}
    (named : marker.Names package name)
    : ∃ simple, name = package ++ "." ++ simple := by
  obtain ⟨simple, found, -⟩ := Option.bind_eq_some_iff.mp
    (Vocabulary.classify?_eq_some_iff_names.mpr named)
  exact ⟨simple, (Text.after?_eq_some_iff _ _ _).mp found⟩

/-- A name begins with the sign only if its package does. -/
theorem Marker.Names.startsWith_sign_iff {package name : String} {marker : Marker}
    (named : marker.Names package name)
    : Text.startsWith "@" name = true ↔ Text.startsWith "@" package = true := by
  obtain ⟨simple, rfl⟩ := named.under_package
  simp only [Text.startsWith, Text.after?, Option.isSome_map, String.toList_append]
  cases package.toList with
  | nil => rfl
  | cons c rest =>
      by_cases sign : '@' = c <;> simp [Text.afterChars?, sign]

/-- Characters that a dot follows are not the same characters behind a sign, by induction on them:
all of them would be the sign, and so would be the dot. -/
theorem append_dot_ne_sign_append (chars after others : List Char)
    : chars ++ '.' :: after ≠ '@' :: (chars ++ others) := by
  induction chars with
  | nil => simp
  | cons c rest ih =>
      intro same
      obtain ⟨rfl, later⟩ := List.cons.inj same
      exact ih later

namespace AnnotationUse

theorem name_new_of_signed (name : String) : (new ("@" ++ name)).name = name := by
  rw [new, Text.after?_append, Option.getD_some]

theorem name_new_of_unsigned {name : String} (unsigned : ¬Text.startsWith "@" name = true)
    : (new name).name = name := by
  have nothing : Text.after? "@" name = none := by simpa [Text.startsWith] using unsigned
  rw [new, nothing, Option.getD_none]

end AnnotationUse

namespace Vocabulary

/-- Under a package with a sign, a name that has lost the sign stands for nothing. -/
theorem classify?_of_signed (package simple : String)
    : classify? ⟨"@" ++ package⟩ (package ++ "." ++ simple) = none := by
  rw [classify?, Option.bind_eq_none_iff]
  intro rest found
  have same := congrArg String.toList ((Text.after?_eq_some_iff _ _ _).mp found)
  simp only [String.toList_append, List.append_assoc] at same
  exact absurd same (append_dot_ne_sign_append _ _ _)

end Vocabulary

namespace Converter

open AnnotationUse

/-- Annotations that are built from the names of a package get the markers that the names stand
for. -/
def Recognises (converter : Converter Q) (package : String) : Prop :=
  ∀ (marker : Marker) (name : String),
    marker.Names package name → converter.vocabulary.classify? (new name).name = some marker

/-- Whether all annotations, whatever their elements, are built from names of a package. -/
def WrittenWith (package : String) (annotations : List AnnotationUse) : Prop :=
  ∀ use ∈ annotations,
    ∃ (marker : Marker) (name : String), marker.Names package name ∧ use.name = (new name).name

/-- Annotations without a marker are passed over. -/
theorem outcome_convert_of_unclassified {converter : Converter Q}
    {annotations : List AnnotationUse}
    (unclassified : ∀ use ∈ annotations, converter.vocabulary.classify? use.name = none)
    : (converter.convert annotations).outcome = .ok none := by
  let supported (use : AnnotationUse) : List AnnotationUse :=
    if converter.supports use then [use] else []
  have nothing : amend converter.vocabulary supported annotations = [] := by
    induction annotations with
    | nil => exact amend_nil
    | cons use rest ih =>
        obtain ⟨own, later⟩ := List.forall_mem_cons.mp unclassified
        rw [amend_cons_of_not_aggregate (by simp [own]), ih later]
        simp [supported, supports, own]
  have kept : ∀ use, converter.supports use = true → supported use = [use] :=
    fun use keeps => if_pos keeps
  have dropped
      : ∀ use, converter.supports use = false
          → ∀ item ∈ supported use, converter.supports item = false := by
    intro use drops item member
    simp [supported, drops] at member
  rw [← outcome_convert_amend converter kept dropped annotations, nothing]
  rfl

variable (converter : Converter Q)

theorem recognises_of_unsigned (unsigned : ¬Text.startsWith "@" converter.vocabulary.package = true)
    : converter.Recognises converter.vocabulary.package := by
  intro marker name named
  rw [name_new_of_unsigned ((not_congr named.startsWith_sign_iff).mpr unsigned)]
  exact Vocabulary.classify?_eq_some_iff_names.mpr named

/-- Under a package with a sign none of its names is recognised. -/
theorem classify?_new_of_signed (signed : Text.startsWith "@" converter.vocabulary.package = true)
    {marker : Marker} {name : String} (named : marker.Names converter.vocabulary.package name)
    : converter.vocabulary.classify? (new name).name = none := by
  obtain ⟨⟨package⟩, hierarchy, missingBase⟩ := converter
  obtain ⟨rest, rfl⟩ := (Text.startsWith_iff _ _).mp signed
  obtain ⟨simple, rfl⟩ := named.under_package
  rw [String.append_assoc, String.append_assoc, name_new_of_signed, ← String.append_assoc]
  exact Vocabulary.classify?_of_signed rest simple

/-- A converter with an accepted package recognises the annotations that are built from its names
exactly when the package does not begin with the sign. If it does, it is accepted all the same, but
conversions of such annotations bind nothing. -/
theorem recognises_iff_unsigned (config : Config) (hierarchy : Hierarchy Q)
    (accepted : config.packageErrors = [])
    : ((ofConfig config hierarchy).Recognises config.annotations.package
        ↔ ¬Text.startsWith "@" config.annotations.package = true)
      ∧ (Text.startsWith "@" config.annotations.package = true
          → ∀ annotations,
              WrittenWith config.annotations.package annotations
              → ((ofConfig config hierarchy).convert annotations).outcome = .ok none)
      ∧ Config.packageErrors
          { config with annotations := { package := "@" ++ config.annotations.package } }
        = [] := by
  refine ⟨⟨?_, recognises_of_unsigned (ofConfig config hierarchy)⟩, ?_, ?_⟩
  · intro recognised signed
    have named := Marker.names_qualifiedName config.annotations.package .tainted
    have missed := classify?_new_of_signed (ofConfig config hierarchy) signed named
    rw [recognised .tainted _ named] at missed
    contradiction
  · intro signed annotations written
    apply outcome_convert_of_unclassified
    intro use member
    obtain ⟨marker, name, named, spelled⟩ := written use member
    rw [spelled]
    exact classify?_new_of_signed (ofConfig config hierarchy) signed named
  · have sound : Config.packageFault? config.annotations.package = none := by
      simpa [Config.packageErrors] using accepted
    simp [Config.packageErrors, Config.packageFault?_sign sound]

/-- Both sorts of package are accepted; with the sign, an annotation with elements goes
unnoticed. -/
theorem recognises_iff_unsigned_bothSorts
    : Config.packageErrors { annotations := { package := "q" } } = []
      ∧ (∀ rest, Vocabulary.classify? ⟨"q"⟩ (new ("q.Multi" ++ rest)).name = some .aggregate)
      ∧ Config.packageErrors { annotations := { package := "@q" } } = []
      ∧ ((ofConfig { annotations := { package := "@q" } } GroundLattice.tainting.hierarchy).convert
            [(new "@q.Tainted").withElement "target" (.text "X")]).outcome
          = .ok none := by
  obtain ⟨recognised, -, accepted⟩ := recognises_iff_unsigned
    { annotations := { package := "q" } } GroundLattice.tainting.hierarchy rfl
  obtain ⟨-, ignored, -⟩ := recognises_iff_unsigned
    { annotations := { package := "@q" } } GroundLattice.tainting.hierarchy rfl
  refine ⟨rfl, ?_, accepted, ?_⟩
  · intro rest
    have named : Marker.aggregate.Names "q" _ := .aggregate rest
    exact recognised.mpr (by decide) .aggregate _ named
  · apply ignored (by decide)
    intro use member
    rw [List.mem_singleton.mp member]
    have named : Marker.tainted.Names "@q" _ := .tainted
    exact ⟨.tainted, _, named, rfl⟩

/-- An annotation written with the names of the accepted package is not recognised, and the
conversion answers as if it were not there. -/
theorem accepted_package_unrecognised
    : Config.packageErrors { annotations := { package := "@q" } } = []
      ∧ ((ofConfig { annotations := { package := "@q" } } GroundLattice.tainting.hierarchy).convert
            [new "@q.Tainted"]).outcome
          = .ok none
      ∧ ¬∀ config : Config, config.packageErrors = []
          → (ofConfig config GroundLattice.tainting.hierarchy).Recognises
              config.annotations.package := by
  refine ⟨rfl, rfl, ?_⟩
  intro recognises
  have found := recognises { annotations := { package := "@q" } } rfl .tainted "@q.Tainted" .tainted
  exact absurd found (by decide)

end Converter

end QualifierBindings
