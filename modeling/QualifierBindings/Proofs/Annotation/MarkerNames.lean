import QualifierBindings.Proofs.Declaration.DeclaredParameters

/-! The names of markers, exactly. A name stands for a marker when it is the package followed by a
dot and the marker's simple name; for an aggregate it may go on after that in any way. Nothing is
asked of the package, which may be empty, end in a dot or look like an aggregate's name itself. So
all tests of a name agree: those of its parts one after the other, those of the whole name, and the
comparisons by which declarations find their annotations.
-/

namespace QualifierBindings

namespace Text

/-- Two beginnings are passed over one after the other. -/
theorem after?_append_lead (first second text : String)
    : after? (first ++ second) text = (after? first text).bind (after? second) := by
  apply Option.ext
  intro rest
  simp only [Option.bind_eq_some_iff, after?_eq_some_iff, String.append_assoc]
  constructor
  · intro whole
    exact ⟨second ++ rest, whole, rfl⟩
  · rintro ⟨middle, rfl, rfl⟩
    rfl

end Text

namespace Marker

/-- The names that stand for a marker in a package. -/
inductive Names (package : String) : Marker → String → Prop where
  | aggregate (rest : String) : Names package .aggregate (package ++ ".Multi" ++ rest)
  | tainted : Names package .tainted (package ++ ".Tainted")
  | untainted : Names package .untainted (package ++ ".Untainted")
  | var : Names package .var (package ++ ".Var")
  | polyTainting : Names package .polyTainting (package ++ ".PolyTainting")
  | wild : Names package .wild (package ++ ".Wild")
  | extendsBound : Names package .extendsBound (package ++ ".Extends")
  | superBound : Names package .superBound (package ++ ".Super")
  | taintingParam : Names package .taintingParam (package ++ ".TaintingParam")

theorem names_qualifiedName (package : String) (marker : Marker)
    : marker.Names package (Vocabulary.qualifiedName ⟨package⟩ marker) := by
  rw [Vocabulary.qualifiedName, String.append_assoc]
  cases marker with
  | aggregate =>
      have named : Marker.aggregate.Names package _ := .aggregate ""
      rwa [String.append_empty] at named
  | tainted => exact .tainted
  | untainted => exact .untainted
  | var => exact .var
  | polyTainting => exact .polyTainting
  | wild => exact .wild
  | extendsBound => exact .extendsBound
  | superBound => exact .superBound
  | taintingParam => exact .taintingParam

/-- The simple names of aggregates are those that begin as they do. -/
theorem ofSimpleName?_eq_aggregate_iff {simple : String}
    : ofSimpleName? simple = some .aggregate ↔ ∃ rest, simple = "Multi" ++ rest := by
  rw [ofSimpleName?, ← Text.startsWith_iff, simpleName]
  split
  · simp [*]
  · rename_i other
    have single : Marker.simple.find? (fun marker => marker.simpleName = simple)
        ≠ some .aggregate :=
      fun found => absurd (List.mem_of_find?_eq_some found) (by decide)
    simp [single, other]

end Marker

namespace Vocabulary

theorem classify?_eq_aggregate_iff {package name : String}
    : classify? ⟨package⟩ name = some .aggregate
      ↔ ∃ rest, name = package ++ ".Multi" ++ rest := by
  have spelled (rest : String)
      : package ++ "." ++ ("Multi" ++ rest) = package ++ ".Multi" ++ rest := by
    rw [← String.append_assoc, @String.append_assoc package]
    rfl
  simp only [classify?, Option.bind_eq_some_iff, Text.after?_eq_some_iff,
    Marker.ofSimpleName?_eq_aggregate_iff]
  constructor
  · rintro ⟨simple, rfl, rest, rfl⟩
    exact ⟨rest, spelled rest⟩
  · rintro ⟨rest, rfl⟩
    exact ⟨"Multi" ++ rest, (spelled rest).symm, rest, rfl⟩

/-- A name is classified by what it is spelled as. -/
theorem classify?_eq_some_iff_names {package name : String} {marker : Marker}
    : classify? ⟨package⟩ name = some marker ↔ marker.Names package name := by
  constructor
  · intro found
    by_cases single : marker = .aggregate
    · subst single
      obtain ⟨rest, rfl⟩ := classify?_eq_aggregate_iff.mp found
      exact .aggregate rest
    · rw [(classify?_eq_some_iff single).mp found]
      exact marker.names_qualifiedName package
  · intro named
    cases named with
    | aggregate rest => exact classify?_eq_aggregate_iff.mpr ⟨rest, rfl⟩
    | tainted | untainted | var | polyTainting | wild | extendsBound | superBound
      | taintingParam => rw [classify?_append]; rfl

/-- Classification by other tests: first whether the whole name begins as an aggregate's does, then
what is left of it when the package and then a dot are taken off its front. -/
def classifyByParts? (vocabulary : Vocabulary) (name : String) : Option Marker :=
  if Text.startsWith (vocabulary.qualifiedName .aggregate) name then some .aggregate
  else
    ((Text.after? vocabulary.package name).bind (Text.after? ".")).bind (fun simple =>
      Marker.simple.find? (fun marker => marker.simpleName = simple))

theorem classifyByParts?_eq (vocabulary : Vocabulary) (name : String)
    : vocabulary.classifyByParts? name = vocabulary.classify? name := by
  rw [classifyByParts?, classify?, Text.startsWith, qualifiedName, Text.after?_append_lead,
    ← Text.after?_append_lead vocabulary.package]
  cases Text.after? (vocabulary.package ++ ".") name with
  | none => rfl
  | some simple => rfl

/-- A name stands for a marker exactly when it is spelled as the marker's name in the package; no
name is spelled as two of them, and all others stand for nothing. The name tests of a declaration,
for annotations that declare parameters and for those that make a signature polymorphic, find
exactly what is classified so. -/
theorem classify?_exact (package name : String)
    : (∀ marker, classify? ⟨package⟩ name = some marker ↔ marker.Names package name)
      ∧ (classify? ⟨package⟩ name = none ↔ ∀ marker : Marker, ¬marker.Names package name)
      ∧ (∀ marker other : Marker,
          marker.Names package name → other.Names package name → marker = other)
      ∧ classifyByParts? ⟨package⟩ name = classify? ⟨package⟩ name
      ∧ (name = qualifiedName ⟨package⟩ .taintingParam
          ↔ classify? ⟨package⟩ name = some .taintingParam)
      ∧ (name = qualifiedName ⟨package⟩ .polyTainting
          ↔ classify? ⟨package⟩ name = some .polyTainting)
      ∧ (∀ declaration : Declaration,
          declaration.annotationsNamed (qualifiedName ⟨package⟩ .taintingParam)
            = (declaration.annotations ++ declaration.contained).filter
                (fun use => classify? ⟨package⟩ use.name = some .taintingParam))
      ∧ ∀ use : TypeUse,
          use.isAnnotatedWith (qualifiedName ⟨package⟩ .polyTainting) = true
          ↔ ∃ found ∈ use.annotations, classify? ⟨package⟩ found.name = some .polyTainting := by
  refine ⟨fun _ => classify?_eq_some_iff_names, ?_, ?_, classifyByParts?_eq ⟨package⟩ name,
    (classify?_eq_some_iff (by simp)).symm, (classify?_eq_some_iff (by simp)).symm,
    fun _ => Declaration.annotationsNamed_eq_declaring,
    fun _ => TypeUse.isAnnotatedWith_iff_bears (by simp)⟩
  · rw [Option.eq_none_iff_forall_ne_some]
    exact forall_congr' (fun _ => not_congr classify?_eq_some_iff_names)
  · intro marker other named named_other
    have same := (classify?_eq_some_iff_names.mpr named).symm.trans
      (classify?_eq_some_iff_names.mpr named_other)
    exact Option.some.inj same

/-- The package looks like an aggregate's name and the name holds it twice; the one marker that the
name stands for is found by its parts as well. -/
theorem classify?_exact_packageLikeAggregate
    : classifyByParts? ⟨"q.Multi"⟩ "q.Multi.Multi.Multi" = some .aggregate
      ∧ Marker.Names "q.Multi" .aggregate "q.Multi.Multi.Multi"
      ∧ ∀ marker : Marker, marker.Names "q.Multi" "q.Multi.Multi.Multi" → marker = .aggregate := by
  obtain ⟨classified, -, unique, parts, -⟩ := classify?_exact "q.Multi" "q.Multi.Multi.Multi"
  have named : Marker.Names "q.Multi" .aggregate "q.Multi.Multi.Multi" :=
    (classified .aggregate).mp rfl
  exact ⟨parts.trans rfl, named, fun marker other => unique marker .aggregate other named⟩

end Vocabulary

end QualifierBindings
