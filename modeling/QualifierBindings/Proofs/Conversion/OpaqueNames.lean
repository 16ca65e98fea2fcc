import Mathlib.Logic.Equiv.Basic
import QualifierBindings.Proofs.Annotation.Classification
import QualifierBindings.Proofs.Conversion.Translation

/-! What names mean to a conversion: nothing but themselves. Parameters and variables may be
renamed in the annotations or in the result, whatever their names look like, and a polymorphic
annotation is a variable of a fixed name.
-/

namespace QualifierBindings

variable {Q : Type}

namespace AnnotationUse

/-- The annotation with the text at one element replaced. An array stays as it is. -/
def mapText (element : String) (f : String → String) (use : AnnotationUse) : AnnotationUse :=
  match use.textElement? element with
  | none => use
  | some text => use.withElement element (.text (f text))

/-- The annotation with new names for the parameter it targets, if it bears on one, and for the
variable it binds that to. -/
def renamed (vocabulary : Vocabulary) (names : Renaming) (use : AnnotationUse) : AnnotationUse :=
  let targeted := if use.bears vocabulary then use.mapText "target" names.parameter else use
  if vocabulary.classify? use.name = some .var then targeted.mapText "value" names.symbol
  else targeted

/-- Annotations with all parameters and variables renamed, at every depth. -/
def renameAll (vocabulary : Vocabulary) (names : Renaming) (annotations : List AnnotationUse)
    : List AnnotationUse :=
  amend vocabulary (fun use => [use.renamed vocabulary names]) annotations

/-- A polymorphic annotation written as a variable. -/
def asVariable (vocabulary : Vocabulary) (use : AnnotationUse) : AnnotationUse :=
  if vocabulary.classify? use.name = some .polyTainting then
    withElement ⟨vocabulary.qualifiedName .var, use.elements⟩ "value"
      (.text Vocabulary.polyParameter)
  else use

/-- Annotations with the polymorphic ones written as variables, at every depth. -/
def polyAsVariables (vocabulary : Vocabulary) (annotations : List AnnotationUse)
    : List AnnotationUse :=
  amend vocabulary (fun use => [use.asVariable vocabulary]) annotations

variable {vocabulary : Vocabulary} {use : AnnotationUse}

@[simp] theorem mapText_name (element : String) (f : String → String) (use : AnnotationUse)
    : (use.mapText element f).name = use.name := by
  unfold mapText
  cases use.textElement? element <;> rfl

/-- Setting an element changes what is written in it and in no other one. -/
theorem written_withElement (use : AnnotationUse) (element other : String)
    (value : ElementValue AnnotationUse)
    : (use.withElement element value).written other
      = if other = element then some value.text? else use.written other := by
  unfold written
  rw [element?_withElement]
  split <;> rfl

/-- Changing the text of an element changes what is written in it and in no other one. -/
theorem written_mapText (element other : String) (f : String → String) (use : AnnotationUse)
    : (use.mapText element f).written other
      = if other = element then (use.written other).map (Option.map f)
        else use.written other := by
  unfold mapText
  rw [textElement?_eq_of_written]
  rcases found : use.written element with _ | (_ | text)
  · by_cases same : other = element <;> simp [same, found]
  · by_cases same : other = element <;> simp [same, found]
  · rw [Option.join_some, written_withElement]
    by_cases same : other = element <;> simp [same, found, ElementValue.text?]

@[simp] theorem renamed_name (names : Renaming)
    : (use.renamed vocabulary names).name = use.name := by
  unfold renamed
  by_cases bearing : use.bears vocabulary = true <;>
    by_cases var : vocabulary.classify? use.name = some .var <;> simp [bearing, var]

/-- The target of an annotation that bears on a parameter is renamed. -/
theorem written_renamed_target (names : Renaming) (bearing : use.bears vocabulary = true)
    : (use.renamed vocabulary names).written "target"
      = (use.written "target").map (Option.map names.parameter) := by
  unfold renamed
  by_cases var : vocabulary.classify? use.name = some .var <;>
    simp [bearing, var, written_mapText]

/-- The name of a variable is renamed. -/
theorem written_renamed_value (names : Renaming)
    (var : vocabulary.classify? use.name = some .var)
    : (use.renamed vocabulary names).written "value"
      = (use.written "value").map (Option.map names.symbol) := by
  have bearing : use.bears vocabulary = true := by simp [bears, binds, var, Marker.isBinding]
  unfold renamed
  simp [bearing, var, written_mapText]

/-- A renamed leaf reads as the leaf does, under the new names. -/
theorem readsAs_renamed (names : Renaming)
    (leaf : vocabulary.classify? use.name ≠ some .aggregate)
    : use.ReadsAs vocabulary vocabulary names id (use.renamed vocabulary names) := by
  apply readsAs_of_role
  · rw [renamed_name]
  · exact renamed_name names
  · exact written_renamed_target names
  · exact written_renamed_value names
  · exact fun aggregate => absurd aggregate leaf

/-- The new name of a polymorphic annotation; other annotations keep theirs. -/
def variableLabel (vocabulary : Vocabulary) (name : String) : String :=
  if name = vocabulary.qualifiedName .polyTainting then vocabulary.qualifiedName .var else name

/-- Only the polymorphic annotation is called a variable. -/
theorem variableLabel_of_not_poly (other : vocabulary.classify? use.name ≠ some .polyTainting)
    : variableLabel vocabulary use.name = use.name :=
  if_neg (fun named => other ((Vocabulary.classify?_eq_some_iff (by simp)).mpr named))

/-- Written as a variable or not, an annotation reads alike, but for the name in its errors. -/
theorem readsAs_asVariable (vocabulary : Vocabulary) (use : AnnotationUse)
    : use.ReadsAs vocabulary vocabulary .identity (variableLabel vocabulary)
        (use.asVariable vocabulary) := by
  by_cases poly : vocabulary.classify? use.name = some .polyTainting
  · have named : use.name = vocabulary.qualifiedName .polyTainting :=
      (Vocabulary.classify?_eq_some_iff (by simp)).mp poly
    have label : variableLabel vocabulary use.name = vocabulary.qualifiedName .var :=
      if_pos named
    unfold asVariable
    rw [if_pos poly]
    generalize made
      : withElement ⟨vocabulary.qualifiedName .var, use.elements⟩ "value"
          (.text Vocabulary.polyParameter) = other
    have otherName : other.name = vocabulary.qualifiedName .var := by
      rw [← made]
      rfl
    have var : vocabulary.classify? other.name = some .var := by
      rw [otherName, Vocabulary.classify?_qualifiedName]
    have value : other.written "value" = some (some Vocabulary.polyParameter) := by
      rw [← made, written_withElement]
      rfl
    have target : other.written "target" = use.written "target" := by
      rw [← made, written_withElement]
      rfl
    have targetFaults
        : other.targetFault? = use.targetFault?.map (.relabel id (variableLabel vocabulary)) := by
      rw [targetFault?_eq_of_written, targetFault?_eq_of_written, target, otherName, ← label]
      rcases use.written "target" with _ | (_ | _) <;> rfl
    exact {
      aggregate := by simp [var, poly]
      binder := by
        simp only [binder?, var, poly, textElement?_eq_of_written, value]
        rfl
      modifier := by simp [modifier?, var, poly]
      target := by
        intro _
        rw [target?_eq_of_written, target?_eq_of_written, target]
        exact (congrFun Option.map_id_fun _).symm
      targetFault := fun _ => targetFaults
      bindingFault := by
        rw [bindingFault?_of_var var, value, targetFaults]
        simp only [bindingFault?, poly]
        rfl }
  · have label := variableLabel_of_not_poly poly
    unfold asVariable
    rw [if_neg poly]
    apply readsAs_of_role
    · rfl
    · exact label.symm
    · intro _
      simp [Renaming.identity]
    · intro _
      simp [Renaming.identity]
    · exact fun _ => rfl

/-- Renamed annotations read as the original ones do, under the renaming. -/
theorem mirrored_renameAll (vocabulary : Vocabulary) (names : Renaming)
    (annotations : List AnnotationUse)
    : Mirrored vocabulary vocabulary names id annotations
        (renameAll vocabulary names annotations) := by
  apply mirrored_amend
  · exact fun _ _ => rfl
  · exact fun _ leaf => readsAs_renamed names leaf

/-- A polymorphic annotation reads as the variable that it stands for. -/
theorem mirrored_polyAsVariables (vocabulary : Vocabulary) (annotations : List AnnotationUse)
    : Mirrored vocabulary vocabulary .identity (variableLabel vocabulary) annotations
        (polyAsVariables vocabulary annotations) := by
  apply mirrored_amend
  · exact fun _ aggregate => variableLabel_of_not_poly (by simp [aggregate])
  · exact fun use _ => readsAs_asVariable vocabulary use

end AnnotationUse

namespace Converter

open AnnotationUse GroundLattice

/-- Over any lattice with the usual rule for variables, so over the tainting lattice and the
inverted one, annotations with renamed parameters and variables are converted to the renamed
bindings, or end with the same error about the renamed parameter. Whether a polymorphic
annotation is written as such or as a variable is seen in the name of an error alone. -/
theorem convert_renameAll [DecidableEq Q] (L : GroundLattice Q) (vocabulary : Vocabulary)
    (missingBase : MissingBase) (annotations : List AnnotationUse)
    : (∀ names : Renaming,
          (convert { vocabulary, hierarchy := L.hierarchy, missingBase }
              (renameAll vocabulary names annotations)).outcome
            = ((convert { vocabulary, hierarchy := L.hierarchy, missingBase }
                annotations).outcome.mapError (.relabel names.parameter id)).map
                (Option.map (Bindings.translate names id)))
      ∧ (convert { vocabulary, hierarchy := L.hierarchy, missingBase }
            (polyAsVariables vocabulary annotations)).outcome
          = (convert { vocabulary, hierarchy := L.hierarchy, missingBase }
              annotations).outcome.mapError (.relabel id (variableLabel vocabulary)) := by
  refine ⟨?_, outcome_convert_relabelled (mirrored_polyAsVariables vocabulary annotations) rfl rfl⟩
  intro names
  have translates := L.embeds_self.translates names.symbol_injective
  exact outcome_convert_mirrored translates (mirrored_renameAll vocabulary names annotations) rfl

/-- A parameter gets the name of a marker, and a variable that of a taint. -/
def likeMarkers : Renaming where
  parameter := Equiv.swap "X" "Tainted"
  symbol := Equiv.swap "v" "TAINTED"
  parameter_injective := (Equiv.swap "X" "Tainted").injective
  symbol_injective := (Equiv.swap "v" "TAINTED").injective
  parameter_main := by decide
  symbol_poly := by decide

/-- A variable inside an aggregate, and a modifier of the same parameter. -/
def widenedVariable : List AnnotationUse :=
  [⟨"q.Super", [("target", .text "X")]⟩,
    ⟨"q.Multi", [("value", .annotations
      [⟨"q.Var", [("target", .text "X"), ("value", .text "v")]⟩, ⟨"q.PolyTainting", []⟩])]⟩]

theorem convert_renameAll_likeMarkers
    : ∃ result,
        (convert { vocabulary := ⟨"q"⟩, hierarchy := tainting.hierarchy, missingBase := .error }
            (renameAll ⟨"q"⟩ likeMarkers widenedVariable)).outcome = .ok result
        ∧ rangeAt result "Tainted" = some ⟨.named "TAINTED" .untainted .tainted, .ground .tainted⟩
        ∧ rangeAt result "Main" = some (.exact (.named "_poly" .untainted .tainted)) := by
  have renamed := convert_renameAll tainting ⟨"q"⟩ .error widenedVariable
  refine ⟨_, (renamed.1 likeMarkers).trans rfl, ?_⟩
  decide +kernel

end Converter

end QualifierBindings
