import QualifierBindings.Proofs.Annotation.Mirroring
import QualifierBindings.Proofs.Conversion.Outcome
import QualifierBindings.Proofs.Hierarchy.Embedding

/-! Conversions of annotations that mirror each other, over hierarchies that correspond. A
conversion compares names for equality and values through their joins, and nothing else, so the
two conversions end with the same bindings up to the names and values, or with the same error up
to the names in it.
-/

namespace QualifierBindings

variable {Q R : Type}

namespace Entries

variable {α : Type}

/-- What was found under the old name is found under the new one. -/
theorem get?_map_names {rename : String → String} (distinct : Function.Injective rename)
    (entries : Entries α) (name : String)
    : get? (rename name) (entries.map (fun entry => (rename entry.1, entry.2)))
      = get? name entries := by
  induction entries with
  | nil => rfl
  | cons entry rest ih => simp only [List.map_cons, get?, distinct.eq_iff, ih]

/-- Nothing is found under a name that is not new. -/
theorem get?_map_names_of_unnamed {rename : String → String} {other : String}
    (unnamed : ∀ name, rename name ≠ other) (entries : Entries α)
    : get? other (entries.map (fun entry => (rename entry.1, entry.2))) = none := by
  induction entries with
  | nil => rfl
  | cons entry rest ih => rw [List.map_cons, get?, if_neg (unnamed entry.1), ih]

end Entries

namespace NameMap

variable {α : Type}

/-- The map with every value under its new name. -/
def rename (rename : String → String) (map : NameMap α) : NameMap α :=
  ofList (map.entries.map (fun entry => (rename entry.1, entry.2)))

section Rename

variable {new : String → String} (distinct : Function.Injective new) (map : NameMap α)

include distinct

/-- A renamed map is looked up in its renamed entries. -/
theorem get?_rename_eq (name : String)
    : (map.rename new).get? name
      = Entries.get? name (map.entries.map (fun entry => (new entry.1, entry.2))) := by
  apply get?_ofList
  have different : (map.names.map new).Nodup :=
    List.pairwise_map.mpr (map.nodup_names.imp (fun apart equal => apart (distinct equal)))
  rw [names, List.map_map] at different
  rw [List.map_map]
  exact different

/-- What was bound to the old name is bound to the new one. -/
theorem get?_rename (name : String) : (map.rename new).get? (new name) = map.get? name := by
  rw [get?_rename_eq distinct, Entries.get?_map_names distinct]
  rfl

/-- Nothing is bound to a name that is not new. -/
theorem get?_rename_of_unnamed {other : String} (unnamed : ∀ name, new name ≠ other)
    : (map.rename new).get? other = none := by
  rw [get?_rename_eq distinct, Entries.get?_map_names_of_unnamed unnamed]

/-- Renaming neither adds nor removes bindings. -/
theorem isEmpty_rename : (map.rename new).isEmpty = map.isEmpty := by
  rw [Bool.eq_iff_iff, isEmpty_iff, isEmpty_iff]
  constructor
  · intro absent name
    rw [← get?_rename distinct, absent]
  · intro absent other
    by_cases named : ∃ name, new name = other
    · obtain ⟨name, rfl⟩ := named
      rw [get?_rename distinct, absent]
    · exact get?_rename_of_unnamed distinct map (fun name equal => named ⟨name, equal⟩)

end Rename

@[simp] theorem rename_id (map : NameMap α) : map.rename id = map := by
  apply ext_get?
  intro name
  exact get?_rename Function.injective_id map name

end NameMap

/-- Bindings with their parameters and variables renamed, and their lattice values translated. -/
def Bindings.translate (names : Renaming) (f : Q → R) (bindings : Bindings Q) : Bindings R :=
  (bindings.rename names.parameter).mapValues (Range.translate f names.symbol)

@[simp] theorem Bindings.translate_identity (f : Q → R) (bindings : Bindings Q)
    : bindings.translate .identity f = bindings.mapValues (Range.map f) := by
  have ranges : Range.translate f Renaming.identity.symbol = Range.map f :=
    funext (Range.translate_id f)
  have kept : bindings.rename Renaming.identity.parameter = bindings :=
    NameMap.rename_id bindings
  rw [Bindings.translate, ranges, kept]

namespace Hierarchy.Translates

variable {H : Hierarchy Q} {K : Hierarchy R} {f : Q → R} {symbol : String → String}
  (translates : H.Translates K f symbol)

include translates

/-- A binder means the same over both hierarchies. -/
theorem range_translate (binder : Binder)
    : (binder.range H.toGroundLattice).translate f symbol
      = (binder.rename symbol).range K.toGroundLattice := by
  cases binder <;>
    simp [Binder.range, Binder.rename, Range.translate, Range.ground, Range.exact, Range.between,
      Qualifier.translate, Qualifier.named, Variable.translate, translates.bottom, translates.top]

/-- Ranges are joined alike on both sides. -/
theorem pointwise_translate (old new : Range Q)
    : (Range.pointwise H.join old new).translate f symbol
      = Range.pointwise K.join (old.translate f symbol) (new.translate f symbol) := by
  simp only [Range.translate, Range.pointwise, Range.combine, translates.join]

/-- A modifier opens the same bound on both sides. -/
theorem applyTo_translate (modifier : Modifier) (range : Range Q)
    : (modifier.applyTo H.toGroundLattice range).translate f symbol
      = modifier.applyTo K.toGroundLattice (range.translate f symbol) := by
  cases modifier <;>
    simp [Modifier.applyTo, Range.withLower, Range.withUpper, Range.translate,
      Qualifier.translate, translates.bottom, translates.top]

/-- Opening bounds before or after translating them makes no difference. -/
theorem applyAll_translate (modifiers : List Modifier) (range : Range Q)
    : (Modifier.applyAll H.toGroundLattice modifiers range).translate f symbol
      = Modifier.applyAll K.toGroundLattice modifiers (range.translate f symbol) := by
  induction modifiers generalizing range with
  | nil => rfl
  | cons modifier rest ih =>
      rw [Modifier.applyAll_cons, Modifier.applyAll_cons, ih, translates.applyTo_translate]

end Hierarchy.Translates

namespace Converter

open AnnotationUse

section Mirrored

variable {left : Converter Q} {right : Converter R} {names : Renaming}
  {label : String → String} {f : Q → R} {before after : List AnnotationUse}
  (translates : left.hierarchy.Translates right.hierarchy f names.symbol)
  (mirrored : Mirrored left.vocabulary right.vocabulary names label before after)

include translates mirrored

/-- The contributions to a parameter correspond one by one. -/
theorem foldedRange_mirrored (parameter : String)
    : right.foldedRange (names.parameter parameter) after
      = (left.foldedRange parameter before).map (Range.translate f names.symbol) := by
  unfold foldedRange parameterFold
  rw [mirrored.foldFrom_parameter,
    map_foldFrom (Range.translate f names.symbol) translates.pointwise_translate]
  congr 1
  funext binder
  exact (translates.range_translate binder).symm

/-- Annotations that mirror each other, converted over corresponding hierarchies, end with
corresponding bindings or with corresponding errors. -/
theorem outcome_convert_mirrored (policy : right.missingBase = left.missingBase)
    : (right.convert after).outcome
      = ((left.convert before).outcome.mapError (.relabel names.parameter label)).map
          (Option.map (Bindings.translate names f)) := by
  apply outcome_convert_correspond
  · exact mirrored.findSome?_document (fun _ _ reads => reads.bindingFault)
  · intro soundLeft soundRight
    have bound (parameter : String)
        : isBound right.vocabulary after (names.parameter parameter)
          = isBound left.vocabulary before parameter := by
      rw [← isSome_foldedRange right soundRight, ← isSome_foldedRange left soundLeft,
        foldedRange_mirrored translates mirrored, Option.isSome_map]
    rw [policy]
    exact mirrored.findSome?_document (fun _ _ reads => reads.modifierFault? _ bound)
  · intro bindings
    rw [Bindings.translate, NameMap.isEmpty_mapValues,
      NameMap.isEmpty_rename names.parameter_injective]
  · intro bindings known parameter
    rw [Bindings.translate, NameMap.get?_mapValues]
    by_cases named : ∃ name, names.parameter name = parameter
    · obtain ⟨name, rfl⟩ := named
      have modifiers
          : modifiersAt right.vocabulary (names.parameter name) after
            = modifiersAt left.vocabulary name before := by
        rw [modifiersAt_eq_filterMap_document, modifiersAt_eq_filterMap_document]
        exact mirrored.filterMap_document (fun _ _ reads => reads.modifierAt?_parameter name)
      rw [NameMap.get?_rename names.parameter_injective, known,
        foldedRange_mirrored translates mirrored, modifiers, Option.map_map, Option.map_map]
      congr 1
      funext range
      exact translates.applyAll_translate _ range
    -- nothing is bound under a name that no parameter got
    · have unnamed (name : String) : names.parameter name ≠ parameter :=
        fun equal => named ⟨name, equal⟩
      rw [NameMap.get?_rename_of_unnamed names.parameter_injective _ unnamed, foldedRange,
        parameterFold, mirrored.foldFrom_of_unnamed unnamed]
      rfl

end Mirrored

/-- Annotations that mirror each other under other names of their own are converted alike, but
for the annotation named in an error. -/
theorem outcome_convert_relabelled {left right : Converter Q} {label : String → String}
    {before after : List AnnotationUse}
    (mirrored : Mirrored left.vocabulary right.vocabulary .identity label before after)
    (joins : right.hierarchy = left.hierarchy) (policy : right.missingBase = left.missingBase)
    : (right.convert after).outcome
      = (left.convert before).outcome.mapError (.relabel id label) := by
  have translates : left.hierarchy.Translates right.hierarchy id Renaming.identity.symbol := by
    rw [joins]
    exact left.hierarchy.translates_self
  rw [outcome_convert_mirrored translates mirrored policy]
  have kept : Bindings.translate (Q := Q) .identity id = id := by
    funext bindings
    have ranges : Range.map (Q := Q) id = id := funext Range.map_id
    rw [Bindings.translate_identity, ranges, NameMap.mapValues_id, id]
  rw [kept, Option.map_id]
  cases (left.convert before).outcome <;> rfl

end Converter

end QualifierBindings
