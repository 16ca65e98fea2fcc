import QualifierBindings.Conversion.Declared
import QualifierBindings.Proofs.Annotation.Classification
import QualifierBindings.Proofs.Annotation.NameChange
import QualifierBindings.Proofs.Conversion.Translation

/-! The package in front of annotation names. What follows it decides which marker a name stands
for, so annotations under one package are converted by a converter for that package as they are
under any other one, and declarations declare the same parameters. Only errors show the package,
in the name of the annotation they are about.
-/

namespace QualifierBindings

variable {Q : Type}

namespace Vocabulary

/-- A name that begins with one package, with another one in its place. -/
def repackage (package other name : String) : String :=
  match Text.after? package name with
  | none => name
  | some rest => other ++ rest

/-- Names in the package are moved to the other one. -/
@[simp] theorem repackage_append (package other rest : String)
    : repackage package other (package ++ rest) = other ++ rest := by
  rw [repackage, Text.after?_append]

/-- A name stands for the same marker under either package. -/
theorem classify?_repackage {package name : String} (under : ∃ rest, name = package ++ rest)
    (other : String)
    : classify? ⟨other⟩ (repackage package other name) = classify? ⟨package⟩ name := by
  obtain ⟨rest, rfl⟩ := under
  rw [repackage_append, classify?_append, classify?_append]

end Vocabulary

namespace TypeUse

def mapNames (change : String → String) (use : TypeUse) : TypeUse :=
  { use with annotations := use.annotations.map (AnnotationUse.mapNames change) }

end TypeUse

namespace Signature

def mapNames (change : String → String) (signature : Signature) : Signature :=
  { result := signature.result.map (TypeUse.mapNames change),
    receiver := signature.receiver.map (TypeUse.mapNames change),
    parameters := signature.parameters.map (TypeUse.mapNames change) }

/-- The types of a signature are changed one by one. -/
theorem types_mapNames (change : String → String) (signature : Signature)
    : (signature.mapNames change).types = signature.types.map (TypeUse.mapNames change) := by
  unfold types mapNames
  cases signature.result <;> cases signature.receiver <;> simp

end Signature

/-- Readings that correspond item by item correspond as a whole, in their failures as well. -/
theorem Except.mapM_map_mapError {α β γ ε δ : Type} {g : α → β} {e : ε → δ}
    {read : α → Except ε γ} {other : β → Except δ γ} (items : List α)
    (same : ∀ item ∈ items, other (g item) = (read item).mapError e)
    : (items.map g).mapM other = (items.mapM read).mapError e := by
  induction items with
  | nil => rfl
  | cons item rest ih =>
      obtain ⟨own, later⟩ := List.forall_mem_cons.mp same
      rw [List.map_cons, List.mapM_cons, List.mapM_cons, own, ih later]
      cases read item with
      | error error => rfl
      | ok value => cases rest.mapM read <;> rfl

namespace Declaration

/-- A declaration with the names of all annotations, at every depth, changed. -/
def mapNames (change : String → String) (declaration : Declaration) : Declaration :=
  { declaration with
    annotations := declaration.annotations.map (AnnotationUse.mapNames change),
    signature := declaration.signature.map (Signature.mapNames change) }

/-- The names of all annotations on a declaration and on the types of its signature. -/
def annotationNames (declaration : Declaration) : List String :=
  declaration.annotations.flatMap AnnotationUse.names
    ++ declaration.signatureTypes.flatMap (fun use => use.annotations.flatMap AnnotationUse.names)

section Change

variable {change : String → String} {vocabulary others : Vocabulary} {declaration : Declaration}

/-- The annotations in containers are changed where they are. -/
theorem contained_mapNames
    : (declaration.mapNames change).contained
      = declaration.contained.map (AnnotationUse.mapNames change) := by
  unfold contained mapNames
  rw [List.flatMap_map, List.map_flatMap]
  congr 1
  funext use
  rw [AnnotationUse.nested?_mapNames]
  cases use.nested? "value" <;> rfl

/-- The types of a declaration are changed one by one. -/
theorem signatureTypes_mapNames
    : (declaration.mapNames change).signatureTypes
      = declaration.signatureTypes.map (TypeUse.mapNames change) := by
  unfold signatureTypes mapNames
  cases declaration.signature with
  | none => rfl
  | some signature => exact Signature.types_mapNames change signature

/-- Names that keep their marker go on being, or not being, that of a marker. -/
theorem change_eq_qualifiedName_iff {name : String} {marker : Marker}
    (kept : others.classify? (change name) = vocabulary.classify? name)
    (single : marker ≠ .aggregate)
    : change name = others.qualifiedName marker ↔ name = vocabulary.qualifiedName marker := by
  rw [← Vocabulary.classify?_eq_some_iff single, ← Vocabulary.classify?_eq_some_iff single, kept]

variable (kept
  : ∀ name ∈ declaration.annotationNames,
      others.classify? (change name) = vocabulary.classify? name)

include kept

/-- All names that the declaration looks at are classified as before. -/
theorem kept_of_mem {use : AnnotationUse}
    (held : use ∈ declaration.annotations ∨ use ∈ declaration.contained)
    : others.classify? (change use.name) = vocabulary.classify? use.name := by
  apply kept
  rw [annotationNames, List.mem_append]
  left
  rcases held with direct | inside
  · exact List.mem_flatMap.mpr ⟨use, direct, use.name_mem_names⟩
  · obtain ⟨container, direct, held⟩ := List.mem_flatMap.mp inside
    cases found : container.nested? "value" with
    | none => simp [found] at held
    | some items =>
        rw [found, Option.getD_some] at held
        have member := AnnotationUse.mem_names_of_nested? found held use.name_mem_names
        exact List.mem_flatMap.mpr ⟨container, direct, member⟩

/-- The changed annotations of a marker are those that had its name before. -/
theorem filter_mapNames {annotations : List AnnotationUse} {marker : Marker}
    (single : marker ≠ .aggregate)
    (held
      : ∀ use ∈ annotations, use ∈ declaration.annotations ∨ use ∈ declaration.contained)
    : (annotations.map (AnnotationUse.mapNames change)).filter
          (fun use => use.name = others.qualifiedName marker)
      = (annotations.filter (fun use => use.name = vocabulary.qualifiedName marker)).map
          (AnnotationUse.mapNames change) := by
  rw [List.filter_map]
  congr 1
  apply List.filter_congr
  intro use member
  have same := change_eq_qualifiedName_iff (kept_of_mem kept (held use member)) single
  simp only [Function.comp_apply, AnnotationUse.mapNames_name, same]

/-- Annotations of a marker are found as before, on the declaration and in containers. -/
theorem annotationsNamed_mapNames {marker : Marker} (single : marker ≠ .aggregate)
    : (declaration.mapNames change).annotationsNamed (others.qualifiedName marker)
      = (declaration.annotationsNamed (vocabulary.qualifiedName marker)).map
          (AnnotationUse.mapNames change) := by
  unfold annotationsNamed
  rw [contained_mapNames, filter_mapNames kept single (fun _ => .inr), List.map_append]
  congr 1
  exact filter_mapNames kept single (fun _ => .inl)

/-- Parameters are declared as before, with the new names in the errors. -/
theorem explicitParameters_mapNames
    : (declaration.mapNames change).explicitParameters others
      = (declaration.explicitParameters vocabulary).mapError (.relabel id change) := by
  unfold explicitParameters
  rw [annotationsNamed_mapNames kept (by simp)]
  apply Except.mapM_map_mapError
  intro use _
  have value : Entries.get? "value" (use.mapNames change).elements
      = (Entries.get? "value" use.elements).map (AnnotationUse.mapNamesInValue change) :=
    use.element?_mapNames "value"
  unfold Elements.requiredText
  rw [value, AnnotationUse.mapNames_name]
  cases Entries.get? "value" use.elements with
  | none => rfl
  | some value => cases value <;> rw [Option.map_some, AnnotationUse.mapNamesInValue] <;> rfl

/-- A signature stays polymorphic, or not. -/
theorem hasPolySignature_mapNames
    : (declaration.mapNames change).hasPolySignature others
      = declaration.hasPolySignature vocabulary := by
  have same {type : TypeUse} (member : type ∈ declaration.signatureTypes) {use : AnnotationUse}
      (held : use ∈ type.annotations)
      : change use.name = others.qualifiedName .polyTainting
        ↔ use.name = vocabulary.qualifiedName .polyTainting := by
    refine change_eq_qualifiedName_iff (kept use.name ?_) (by simp)
    rw [annotationNames, List.mem_append]
    exact .inr (List.mem_flatMap.mpr
      ⟨type, member, List.mem_flatMap.mpr ⟨use, held, use.name_mem_names⟩⟩)
  unfold hasPolySignature
  rw [signatureTypes_mapNames, List.any_map, Bool.eq_iff_iff, List.any_eq_true, List.any_eq_true]
  refine exists_congr (fun type => and_congr_right (fun member => ?_))
  simp only [Function.comp_apply, TypeUse.mapNames, TypeUse.isAnnotatedWith, List.any_map,
    List.any_eq_true]
  refine exists_congr (fun use => and_congr_right (fun held => ?_))
  simp [same member held]

/-- A declaration whose annotations keep their markers declares the same parameters, or fails
for the same annotation under its new name. -/
theorem parameters_mapNames
    : (declaration.mapNames change).parameters others
      = (declaration.parameters vocabulary).mapError (.relabel id change) := by
  have implicit : (declaration.mapNames change).implicitParameters others
      = declaration.implicitParameters vocabulary := by
    unfold implicitParameters
    rw [hasPolySignature_mapNames kept]
    rfl
  unfold parameters
  rw [explicitParameters_mapNames kept, implicit]
  cases declaration.explicitParameters vocabulary <;> rfl

end Change

end Declaration

namespace Converter

open AnnotationUse GroundLattice Vocabulary

/-- What is supported under the old name is supported under the new one. -/
theorem supports_mapNames {vocabulary others : Vocabulary} {change : String → String}
    {use : AnnotationUse} (hierarchy : Hierarchy Q) (missingBase : MissingBase)
    (kept : others.classify? (change use.name) = vocabulary.classify? use.name)
    : supports { vocabulary := others, hierarchy, missingBase } (use.mapNames change)
      = supports { vocabulary, hierarchy, missingBase } use := by
  unfold supports
  rw [mapNames_name]
  simp only [kept]

/-- Exchanging the package, in a converter and in front of all annotation names at every depth,
changes nothing but the names of annotations in errors: not the result of a conversion, nor
which annotations are supported, nor the parameters that a declaration declares. -/
theorem convert_repackage (package other : String)
    : (∀ rest, repackage package other (package ++ rest) = other ++ rest)
      ∧ (∀ (hierarchy : Hierarchy Q) (missingBase : MissingBase)
            (annotations : List AnnotationUse),
          (∀ use ∈ annotations, ∀ name ∈ use.names, ∃ rest, name = package ++ rest)
          → (convert { vocabulary := ⟨other⟩, hierarchy, missingBase }
                (annotations.map (mapNames (repackage package other)))).outcome
              = (convert { vocabulary := ⟨package⟩, hierarchy, missingBase }
                  annotations).outcome.mapError (.relabel id (repackage package other)))
      ∧ (∀ (hierarchy : Hierarchy Q) (missingBase : MissingBase) (use : AnnotationUse),
          (∃ rest, use.name = package ++ rest)
          → supports { vocabulary := ⟨other⟩, hierarchy, missingBase }
                (use.mapNames (repackage package other))
              = supports { vocabulary := ⟨package⟩, hierarchy, missingBase } use)
      ∧ ∀ declaration : Declaration,
          (∀ name ∈ declaration.annotationNames, ∃ rest, name = package ++ rest)
          → (declaration.mapNames (repackage package other)).parameters ⟨other⟩
            = (declaration.parameters ⟨package⟩).mapError
                (.relabel id (repackage package other)) := by
  refine ⟨repackage_append package other, ?_, ?_, ?_⟩
  · intro hierarchy missingBase annotations under
    have kept
        : ∀ use ∈ annotations, ∀ name ∈ use.names,
            classify? ⟨other⟩ (repackage package other name) = classify? ⟨package⟩ name :=
      fun use held name member => classify?_repackage (under use held name member) other
    exact outcome_convert_relabelled (mirrored_mapNames annotations kept) rfl rfl
  · intro hierarchy missingBase use under
    exact supports_mapNames hierarchy missingBase (classify?_repackage under other)
  · intro declaration under
    exact Declaration.parameters_mapNames
      (fun name member => classify?_repackage (under name member) other)

/-- A variable without a name and a modifier, in aggregates inside each other. -/
def nestedUnnamed : List AnnotationUse :=
  [⟨"q.Multi", [("value", .annotations
    [⟨"q.MultiSuper", [("value", .annotations [⟨"q.Super", [("target", .text "X")]⟩])]⟩,
      ⟨"q.Tainted", [("target", .text "X")]⟩,
      ⟨"q.Var", []⟩])]⟩]

/-- A class with a declared parameter, and with a container of another one. -/
def declaringClass : Declaration where
  kind := .classType
  name := "C"
  annotations :=
    [⟨"q.TaintingParam", [("value", .text "X")]⟩,
      ⟨"q.TaintingParams", [("value", .annotations
        [⟨"q.TaintingParam", [("value", .text "Y")]⟩])]⟩]
  signature := none

/-- The new package begins with the old one and looks like an aggregate's name. -/
theorem convert_repackage_longer
    : (convert
            { vocabulary := ⟨"q.Multi"⟩, hierarchy := tainting.hierarchy, missingBase := .error }
          (nestedUnnamed.map (mapNames (repackage "q" "q.Multi")))).outcome
        = .error (.missingElement "q.Multi.Var" "value")
      ∧ supports
            { vocabulary := ⟨"q.Multi"⟩, hierarchy := tainting.hierarchy, missingBase := .error }
            ⟨"q.Multi.Super", []⟩
          = true
      ∧ (declaringClass.mapNames (repackage "q" "q.Multi")).parameters ⟨"q.Multi"⟩
        = .ok (.ofList [("Main", ()), ("X", ()), ("Y", ())]) := by
  have under {name : String} (lead : "q".toList <+: name.toList)
      : ∃ rest, name = "q" ++ rest := by
    obtain ⟨rest, whole⟩ := lead
    exact ⟨.ofList rest, String.toList_injective (by simp [← whole])⟩
  obtain ⟨-, converts, supported, declares⟩ := convert_repackage "q" "q.Multi"
  have nested := converts tainting.hierarchy .error nestedUnnamed
    (fun use held name member => under (by revert use name; decide))
  refine ⟨nested.trans rfl, ?_, ?_⟩
  · exact supported tainting.hierarchy .error ⟨"q.Super", []⟩ (under (by decide))
  · exact (declares declaringClass (fun name member => under (by revert name; decide))).trans rfl

end Converter

end QualifierBindings
