import QualifierBindings.Conversion.Clause
import QualifierBindings.Config.Basic
import QualifierBindings.Proofs.Annotation.DocumentOrder

/-! What single annotations say about parameters, read off their names and elements:
the parameter they target, what they bind it to, which bound they open, and how they
are malformed. The lists made of these readings over a whole document grow by one
equation, taken from the document of its first annotation.
-/

namespace QualifierBindings

def Marker.isBinding : Marker → Bool
  | .tainted | .untainted | .var | .polyTainting | .wild => true
  | _ => false

def Modifier.marker : Modifier → Marker
  | .extendsBound => .extendsBound
  | .superBound => .superBound

namespace AnnotationUse

/-- The targeted parameter, the main one when none is named; nothing when the element
`target` is an array. -/
def target? (use : AnnotationUse) : Option String :=
  match use.element? "target" with
  | none => some Vocabulary.mainParameter
  | some value => value.text?

/-- Whether an annotation binds a parameter, decided by its name. -/
def binds (vocabulary : Vocabulary) (use : AnnotationUse) : Bool :=
  (vocabulary.classify? use.name).any Marker.isBinding

/-- What a binding annotation binds its parameter to. -/
def binder? (vocabulary : Vocabulary) (use : AnnotationUse) : Option Binder :=
  match vocabulary.classify? use.name with
  | some .tainted => some .top
  | some .untainted => some .bottom
  | some .var => (use.textElement? "value").map .named
  | some .polyTainting => some (.named Vocabulary.polyParameter)
  | some .wild => some .anything
  | _ => none

def modifier? (vocabulary : Vocabulary) (use : AnnotationUse) : Option Modifier :=
  match vocabulary.classify? use.name with
  | some .extendsBound => some .extendsBound
  | some .superBound => some .superBound
  | _ => none

/-- The error of an element `target` that is an array. -/
def targetFault? (use : AnnotationUse) : Option ConversionError :=
  match use.element? "target" with
  | some (.annotations _) => some (.elementMismatch use.name "target" .text .annotations)
  | _ => none

/-- The error of an annotation that the first pass refuses: an aggregate without an
array of annotations, a variable without a name, or a binding without a target. The
name of a variable is looked at before its target. -/
def bindingFault? (vocabulary : Vocabulary) (use : AnnotationUse) : Option ConversionError :=
  match vocabulary.classify? use.name with
  | some .aggregate =>
      match use.element? "value" with
      | some (.annotations _) => none
      | some (.text _) => some (.elementMismatch use.name "value" .annotations .text)
      | none => some (.missingElement use.name "value")
  | some .var =>
      match use.element? "value" with
      | some (.text _) => use.targetFault?
      | some (.annotations _) => some (.elementMismatch use.name "value" .text .annotations)
      | none => some (.missingElement use.name "value")
  | some .tainted | some .untainted | some .polyTainting | some .wild => use.targetFault?
  | _ => none

/-- The error of a modifier that the second pass refuses: one without a target, or,
under the strict policy, one whose target is not among the bound parameters. -/
def modifierFault? (vocabulary : Vocabulary) (missingBase : MissingBase) (bound : String → Bool)
    (use : AnnotationUse) : Option ConversionError :=
  match use.modifier? vocabulary with
  | none => none
  | some modifier =>
      match use.target? with
      | none => use.targetFault?
      | some target =>
          if missingBase = .error ∧ bound target = false then
            some (.modifierWithoutBase modifier target)
          else none

/-- What an annotation binds the given parameter to. -/
def binderAt? (vocabulary : Vocabulary) (parameter : String) (use : AnnotationUse)
    : Option Binder :=
  if use.target? = some parameter then use.binder? vocabulary else none

/-- Which bound of the given parameter an annotation opens. -/
def modifierAt? (vocabulary : Vocabulary) (parameter : String) (use : AnnotationUse)
    : Option Modifier :=
  if use.target? = some parameter then use.modifier? vocabulary else none

def bindingLeaves (vocabulary : Vocabulary) (parameter : String)
    (annotations : List AnnotationUse) : List AnnotationUse :=
  (leaves vocabulary annotations).filter
    (fun use => use.binds vocabulary && use.target? = some parameter)

/-- All leaves that bind parameters, in document order. -/
def binderLeaves (vocabulary : Vocabulary) (annotations : List AnnotationUse)
    : List AnnotationUse :=
  (leaves vocabulary annotations).filter (binds vocabulary)

/-- All leaves that open bounds, in document order. -/
def modifierLeaves (vocabulary : Vocabulary) (annotations : List AnnotationUse)
    : List AnnotationUse :=
  (leaves vocabulary annotations).filter (fun use => (use.modifier? vocabulary).isSome)

/-- What the leaves bind the given parameter to, in document order. -/
def bindersAt (vocabulary : Vocabulary) (parameter : String)
    (annotations : List AnnotationUse) : List Binder :=
  (leaves vocabulary annotations).filterMap (binderAt? vocabulary parameter)

/-- The bounds of the given parameter that the leaves open, in document order. -/
def modifiersAt (vocabulary : Vocabulary) (parameter : String)
    (annotations : List AnnotationUse) : List Modifier :=
  (leaves vocabulary annotations).filterMap (modifierAt? vocabulary parameter)

/-- Whether some leaf with the given marker targets a parameter. -/
def isTargetedBy (vocabulary : Vocabulary) (marker : Marker) (parameter : String)
    (annotations : List AnnotationUse) : Bool :=
  (leaves vocabulary annotations).any
    (fun use => vocabulary.classify? use.name = some marker && use.target? = some parameter)

/-- Modifiers are told by their names alone. -/
theorem modifier?_eq_some_iff {vocabulary : Vocabulary} {use : AnnotationUse}
    {modifier : Modifier}
    : use.modifier? vocabulary = some modifier
      ↔ vocabulary.classify? use.name = some modifier.marker := by
  unfold modifier?
  cases vocabulary.classify? use.name with
  | none => simp
  | some marker => cases marker <;> cases modifier <;> simp [Modifier.marker]

section Modifier

variable {vocabulary : Vocabulary} {use : AnnotationUse} {kind : Modifier}
  (modifies : use.modifier? vocabulary = some kind)

include modifies

/-- A modifier is no aggregate. -/
theorem not_aggregate_of_modifier? : vocabulary.classify? use.name ≠ some .aggregate := by
  rw [modifier?_eq_some_iff.mp modifies]
  cases kind <;> simp [Modifier.marker]

/-- The first pass takes no offence at modifiers. -/
theorem bindingFault?_of_modifier? : use.bindingFault? vocabulary = none := by
  have found := modifier?_eq_some_iff.mp modifies
  cases kind <;> simp [bindingFault?, found, Modifier.marker]

/-- A modifier binds nothing. -/
theorem binderAt?_of_modifier? (parameter : String)
    : use.binderAt? vocabulary parameter = none := by
  have found := modifier?_eq_some_iff.mp modifies
  have noBinder : use.binder? vocabulary = none := by
    cases kind <;> simp [binder?, found, Modifier.marker]
  rw [binderAt?, noBinder, ite_self]

end Modifier

/-- A binder stands at the parameter that it targets. -/
theorem binderAt?_eq_some_iff {vocabulary : Vocabulary} {parameter : String}
    {use : AnnotationUse} {binder : Binder}
    : use.binderAt? vocabulary parameter = some binder
      ↔ use.target? = some parameter ∧ use.binder? vocabulary = some binder := by
  simp [binderAt?]

/-- A modifier stands at the parameter that it targets. -/
theorem modifierAt?_eq_some_iff {vocabulary : Vocabulary} {parameter : String}
    {use : AnnotationUse} {modifier : Modifier}
    : use.modifierAt? vocabulary parameter = some modifier
      ↔ use.target? = some parameter ∧ use.modifier? vocabulary = some modifier := by
  simp [modifierAt?]

/-- An aggregate binds nothing itself. -/
theorem binder?_of_aggregate {vocabulary : Vocabulary} {use : AnnotationUse}
    (aggregate : vocabulary.classify? use.name = some .aggregate)
    : use.binder? vocabulary = none := by
  simp [binder?, aggregate]

/-- An aggregate opens nothing itself. -/
theorem modifier?_of_aggregate {vocabulary : Vocabulary} {use : AnnotationUse}
    (aggregate : vocabulary.classify? use.name = some .aggregate)
    : use.modifier? vocabulary = none := by
  simp [modifier?, aggregate]

theorem binderAt?_of_aggregate {vocabulary : Vocabulary} {parameter : String}
    {use : AnnotationUse} (aggregate : vocabulary.classify? use.name = some .aggregate)
    : use.binderAt? vocabulary parameter = none := by
  rw [binderAt?, binder?_of_aggregate aggregate, ite_self]

theorem modifierAt?_of_aggregate {vocabulary : Vocabulary} {parameter : String}
    {use : AnnotationUse} (aggregate : vocabulary.classify? use.name = some .aggregate)
    : use.modifierAt? vocabulary parameter = none := by
  rw [modifierAt?, modifier?_of_aggregate aggregate, ite_self]

/-- An aggregate is never refused as a modifier. -/
theorem modifierFault?_of_aggregate {vocabulary : Vocabulary} {missingBase : MissingBase}
    {bound : String → Bool} {use : AnnotationUse}
    (aggregate : vocabulary.classify? use.name = some .aggregate)
    : use.modifierFault? vocabulary missingBase bound = none := by
  rw [modifierFault?, modifier?_of_aggregate aggregate]

/-- Only binding annotations can be read as binders. -/
theorem binds_of_binder?_eq_some {vocabulary : Vocabulary} {use : AnnotationUse}
    {binder : Binder} (read : use.binder? vocabulary = some binder)
    : use.binds vocabulary = true := by
  unfold binder? at read
  unfold binds
  cases found : vocabulary.classify? use.name with
  | none => simp [found] at read
  | some marker => cases marker <;> simp [found, Marker.isBinding] at read ⊢

/-- A binding annotation lacks a binder only when it is a malformed variable. -/
theorem binder?_isSome_of_binds {vocabulary : Vocabulary} {use : AnnotationUse}
    (binding : use.binds vocabulary = true) (sound : use.bindingFault? vocabulary = none)
    : ∃ binder, use.binder? vocabulary = some binder := by
  cases found : vocabulary.classify? use.name with
  | none => simp [binds, found] at binding
  | some marker =>
      cases marker with
      | tainted => exact ⟨.top, by simp only [binder?, found]⟩
      | untainted => exact ⟨.bottom, by simp only [binder?, found]⟩
      | polyTainting =>
          exact ⟨.named Vocabulary.polyParameter, by simp only [binder?, found]⟩
      | wild => exact ⟨.anything, by simp only [binder?, found]⟩
      | var =>
          -- the name of a variable is its element `value`
          cases named : use.element? "value" with
          | none => simp [bindingFault?, found, named] at sound
          | some value =>
              cases value with
              | text name =>
                  refine ⟨.named name, ?_⟩
                  simp only [binder?, found, textElement?, named, Option.bind_some,
                    ElementValue.text?, Option.map_some]
              | annotations items => simp [bindingFault?, found, named] at sound
      | aggregate | extendsBound | superBound | taintingParam =>
          simp [binds, found, Marker.isBinding] at binding

/-- A sound binding annotation has a target. -/
theorem target?_isSome_of_binds {vocabulary : Vocabulary} {use : AnnotationUse}
    (binding : use.binds vocabulary = true) (sound : use.bindingFault? vocabulary = none)
    : ∃ parameter, use.target? = some parameter := by
  have targeted : use.targetFault? = none := by
    cases found : vocabulary.classify? use.name with
    | none => simp [binds, found] at binding
    | some marker =>
        cases marker with
        | tainted | untainted | polyTainting | wild => simpa [bindingFault?, found] using sound
        | var =>
            -- the target of a variable is looked at once it has a name
            simp only [bindingFault?, found] at sound
            split at sound
            · exact sound
            · contradiction
            · contradiction
        | aggregate | extendsBound | superBound | taintingParam =>
            simp [binds, found, Marker.isBinding] at binding
  unfold targetFault? at targeted
  unfold target?
  cases held : use.element? "target" with
  | none => exact ⟨_, rfl⟩
  | some value =>
      cases value with
      | text parameter => exact ⟨parameter, rfl⟩
      | annotations items => simp [held] at targeted

/-- A sound annotation that gives no parameter a binder does not bind. -/
theorem binds_eq_false_of_binderAt? {vocabulary : Vocabulary} {use : AnnotationUse}
    (sound : use.bindingFault? vocabulary = none)
    (noBinder : ∀ parameter, use.binderAt? vocabulary parameter = none)
    : use.binds vocabulary = false := by
  cases binding : use.binds vocabulary with
  | false => rfl
  | true =>
      obtain ⟨parameter, targeted⟩ := target?_isSome_of_binds binding sound
      obtain ⟨binder, read⟩ := binder?_isSome_of_binds binding sound
      have bound := noBinder parameter
      simp [binderAt?, targeted, read] at bound

/-- The binding leaves of a parameter are those that target it. -/
theorem mem_bindingLeaves_iff {vocabulary : Vocabulary} {parameter : String}
    {annotations : List AnnotationUse} {use : AnnotationUse}
    : use ∈ bindingLeaves vocabulary parameter annotations
      ↔ use ∈ leaves vocabulary annotations ∧ use.binds vocabulary = true
        ∧ use.target? = some parameter := by
  simp [bindingLeaves]

/-- A modifier stands at a parameter when a leaf of its name targets that. -/
theorem mem_modifiersAt_iff {vocabulary : Vocabulary} {parameter : String}
    {annotations : List AnnotationUse} {modifier : Modifier}
    : modifier ∈ modifiersAt vocabulary parameter annotations
      ↔ ∃ use ∈ leaves vocabulary annotations,
          vocabulary.classify? use.name = some modifier.marker
          ∧ use.target? = some parameter := by
  simp only [modifiersAt, List.mem_filterMap, modifierAt?_eq_some_iff, modifier?_eq_some_iff]
  simp only [and_comm]

/-- What is looked for among the leaves is a leaf of the marker that targets the parameter. -/
theorem isTargetedBy_iff {vocabulary : Vocabulary} {marker : Marker} {parameter : String}
    {annotations : List AnnotationUse}
    : isTargetedBy vocabulary marker parameter annotations = true
      ↔ ∃ use ∈ leaves vocabulary annotations,
          vocabulary.classify? use.name = some marker ∧ use.target? = some parameter := by
  simp [isTargetedBy]

/-- A modifier is among those of a parameter exactly when its marker targets it. -/
theorem mem_modifiersAt_iff_isTargetedBy {vocabulary : Vocabulary} {parameter : String}
    {annotations : List AnnotationUse} {modifier : Modifier}
    : modifier ∈ modifiersAt vocabulary parameter annotations
      ↔ isTargetedBy vocabulary modifier.marker parameter annotations = true := by
  rw [mem_modifiersAt_iff, isTargetedBy_iff]

/-- Every binding leaf that can be read gives its binder. -/
theorem filterMap_bindingLeaves (vocabulary : Vocabulary) (parameter : String)
    (annotations : List AnnotationUse)
    : (bindingLeaves vocabulary parameter annotations).filterMap (binder? vocabulary)
      = bindersAt vocabulary parameter annotations := by
  rw [bindingLeaves, bindersAt, List.filterMap_filter]
  congr 1
  funext use
  by_cases targeted : use.target? = some parameter
  · cases read : use.binder? vocabulary with
    | none => simp [binderAt?, read]
    | some binder => simp [binderAt?, targeted, read, binds_of_binder?_eq_some read]
  · simp [binderAt?, targeted]

/-- Aggregates may be read along, since they neither bind nor modify. -/
theorem bindersAt_eq_filterMap_document (vocabulary : Vocabulary) (parameter : String)
    (annotations : List AnnotationUse)
    : bindersAt vocabulary parameter annotations
      = (document vocabulary annotations).filterMap (binderAt? vocabulary parameter) :=
  filterMap_leaves (fun _ => binderAt?_of_aggregate) annotations

/-- The modifiers of a parameter may be read off the whole document, since aggregates are none. -/
theorem modifiersAt_eq_filterMap_document (vocabulary : Vocabulary) (parameter : String)
    (annotations : List AnnotationUse)
    : modifiersAt vocabulary parameter annotations
      = (document vocabulary annotations).filterMap (modifierAt? vocabulary parameter) :=
  filterMap_leaves (fun _ => modifierAt?_of_aggregate) annotations

/-- An annotation comes before what it holds, and that before the rest. -/
theorem bindersAt_cons (vocabulary : Vocabulary) (parameter : String) (use : AnnotationUse)
    (rest : List AnnotationUse)
    : bindersAt vocabulary parameter (use :: rest)
      = (use.binderAt? vocabulary parameter).toList
        ++ bindersAt vocabulary parameter (use.contents vocabulary)
        ++ bindersAt vocabulary parameter rest :=
  filterMap_leaves_cons (fun _ => binderAt?_of_aggregate) use rest

/-- Binding leaves are listed along the document. -/
theorem binderLeaves_cons (vocabulary : Vocabulary) (use : AnnotationUse)
    (rest : List AnnotationUse)
    : binderLeaves vocabulary (use :: rest)
      = [use].filter (binds vocabulary) ++ binderLeaves vocabulary (use.contents vocabulary)
        ++ binderLeaves vocabulary rest :=
  filter_leaves_cons (fun _ aggregate => by simp [binds, aggregate, Marker.isBinding]) use rest

/-- Modifiers are listed along the document. -/
theorem modifierLeaves_cons (vocabulary : Vocabulary) (use : AnnotationUse)
    (rest : List AnnotationUse)
    : modifierLeaves vocabulary (use :: rest)
      = [use].filter (fun use => (use.modifier? vocabulary).isSome)
        ++ modifierLeaves vocabulary (use.contents vocabulary)
        ++ modifierLeaves vocabulary rest :=
  filter_leaves_cons (fun _ aggregate => by rw [modifier?_of_aggregate aggregate]; rfl) use rest

end AnnotationUse

end QualifierBindings
