import Mathlib.Logic.Function.Basic
import QualifierBindings.Proofs.Annotation.Amendment

/-! Annotations that say the same under other names. Parameters and variables may be renamed,
and annotations may be written under other names, as long as each of them plays the same role.
Two lists of one shape whose annotations correspond in this way are read alike along their
documents, and what they contribute to a parameter is folded alike.
-/

namespace QualifierBindings

/-- New names for parameters and for variables. Different names stay different, and the
parameter and the variable that annotations imply keep theirs. -/
structure Renaming where
  parameter : String → String
  symbol : String → String
  parameter_injective : Function.Injective parameter
  symbol_injective : Function.Injective symbol
  parameter_main : parameter Vocabulary.mainParameter = Vocabulary.mainParameter
  symbol_poly : symbol Vocabulary.polyParameter = Vocabulary.polyParameter

/-- The renaming that keeps all names. -/
def Renaming.identity : Renaming where
  parameter := id
  symbol := id
  parameter_injective := Function.injective_id
  symbol_injective := Function.injective_id
  parameter_main := rfl
  symbol_poly := rfl

def Binder.rename (symbol : String → String) : Binder → Binder
  | .top => .top
  | .bottom => .bottom
  | .named variableName => .named (symbol variableName)
  | .anything => .anything

/-- An error with the parameter or the annotation in it renamed. -/
def ConversionError.relabel (parameter label : String → String)
    : ConversionError → ConversionError
  | .modifierWithoutBase modifier target => .modifierWithoutBase modifier (parameter target)
  | .missingElement annotationName element => .missingElement (label annotationName) element
  | .elementMismatch annotationName element expected found =>
      .elementMismatch (label annotationName) element expected found

@[simp] theorem Binder.rename_id (binder : Binder) : binder.rename id = binder := by
  cases binder <;> rfl

@[simp] theorem ConversionError.relabel_id (error : ConversionError)
    : error.relabel id id = error := by
  cases error <;> rfl

namespace AnnotationUse

/-- What is written at an element: nothing, an array, or a text. -/
def written (use : AnnotationUse) (element : String) : Option (Option String) :=
  (use.element? element).map ElementValue.text?

section Written

variable {vocabulary : Vocabulary} {use : AnnotationUse}

/-- The target is read off what is written in its element. -/
theorem target?_eq_of_written
    : use.target?
      = match use.written "target" with
        | none => some Vocabulary.mainParameter
        | some text => text := by
  unfold target? written
  cases use.element? "target" <;> rfl

/-- The text of an element is read off what is written in it. -/
theorem textElement?_eq_of_written (element : String)
    : use.textElement? element = (use.written element).join := by
  unfold textElement? written
  cases use.element? element <;> rfl

/-- So is what is wrong with the target. -/
theorem targetFault?_eq_of_written
    : use.targetFault?
      = match use.written "target" with
        | some none => some (.elementMismatch use.name "target" .text .annotations)
        | _ => none := by
  unfold targetFault? written
  rcases use.element? "target" with _ | (_ | _) <;> rfl

/-- What is wrong with an aggregate is seen from the kind of its value. -/
theorem bindingFault?_of_aggregate
    (aggregate : vocabulary.classify? use.name = some .aggregate)
    : use.bindingFault? vocabulary
      = match (use.written "value").map Option.isSome with
        | some false => none
        | some true => some (.elementMismatch use.name "value" .annotations .text)
        | none => some (.missingElement use.name "value") := by
  unfold bindingFault? written
  rw [aggregate]
  rcases use.element? "value" with _ | (_ | _) <;> rfl

/-- What is wrong with a variable is seen from its name, and then from its target. -/
theorem bindingFault?_of_var (var : vocabulary.classify? use.name = some .var)
    : use.bindingFault? vocabulary
      = match use.written "value" with
        | some (some _) => use.targetFault?
        | some none => some (.elementMismatch use.name "value" .text .annotations)
        | none => some (.missingElement use.name "value") := by
  unfold bindingFault? written
  rw [var]
  rcases use.element? "value" with _ | (_ | _) <;> rfl

end Written

/-- Whether an annotation binds a parameter or opens one of its bounds. -/
def bears (vocabulary : Vocabulary) (use : AnnotationUse) : Bool :=
  use.binds vocabulary || (use.modifier? vocabulary).isSome

/-- One annotation says under new names what another one says: it binds and modifies alike,
and is malformed alike. -/
structure ReadsAs (vocabulary others : Vocabulary) (names : Renaming)
    (label : String → String) (use other : AnnotationUse) : Prop where
  aggregate
    : others.classify? other.name = some .aggregate
      ↔ vocabulary.classify? use.name = some .aggregate
  binder : other.binder? others = (use.binder? vocabulary).map (Binder.rename names.symbol)
  modifier : other.modifier? others = use.modifier? vocabulary
  target : use.bears vocabulary = true → other.target? = use.target?.map names.parameter
  targetFault
    : use.bears vocabulary = true
      → other.targetFault? = use.targetFault?.map (.relabel names.parameter label)
  bindingFault
    : other.bindingFault? others
      = (use.bindingFault? vocabulary).map (.relabel names.parameter label)

/-- Annotations of one role read alike when their targets and the names of variables are
written alike, and aggregates hold arrays alike. -/
theorem readsAs_of_role {vocabulary others : Vocabulary} {names : Renaming}
    {label : String → String} {use other : AnnotationUse}
    (role : others.classify? other.name = vocabulary.classify? use.name)
    (named : other.name = label use.name)
    (target
      : use.bears vocabulary = true
        → other.written "target" = (use.written "target").map (Option.map names.parameter))
    (symbol
      : vocabulary.classify? use.name = some .var
        → other.written "value" = (use.written "value").map (Option.map names.symbol))
    (array
      : vocabulary.classify? use.name = some .aggregate
        → (other.written "value").map Option.isSome = (use.written "value").map Option.isSome)
    : ReadsAs vocabulary others names label use other := by
  have targeted (bearing : use.bears vocabulary = true)
      : other.target? = use.target?.map names.parameter := by
    rw [target?_eq_of_written, target?_eq_of_written, target bearing]
    cases use.written "target" <;> simp [names.parameter_main]
  have targetFaults (bearing : use.bears vocabulary = true)
      : other.targetFault? = use.targetFault?.map (.relabel names.parameter label) := by
    rw [targetFault?_eq_of_written, targetFault?_eq_of_written, target bearing, named]
    rcases use.written "target" with _ | (_ | _) <;> rfl
  have binders
      : other.binder? others = (use.binder? vocabulary).map (Binder.rename names.symbol) := by
    unfold binder?
    rw [role]
    cases found : vocabulary.classify? use.name with
    | none => rfl
    | some marker =>
        cases marker with
        | var =>
            simp only [textElement?_eq_of_written, symbol found]
            rcases use.written "value" with _ | (_ | _) <;> rfl
        | polyTainting => simp [Binder.rename, names.symbol_poly]
        | tainted | untainted | wild | aggregate | extendsBound | superBound | taintingParam =>
            rfl
  have bindingFaults
      : other.bindingFault? others
        = (use.bindingFault? vocabulary).map (.relabel names.parameter label) := by
    cases found : vocabulary.classify? use.name with
    | none => simp [bindingFault?, role, found]
    | some marker =>
        cases marker with
        | aggregate =>
            rw [bindingFault?_of_aggregate found, bindingFault?_of_aggregate (role.trans found),
              array found, named]
            rcases use.written "value" with _ | (_ | _) <;> rfl
        | var =>
            rw [bindingFault?_of_var found, bindingFault?_of_var (role.trans found),
              symbol found, named,
              targetFaults (by simp [bears, binds, found, Marker.isBinding])]
            rcases use.written "value" with _ | (_ | _) <;> rfl
        | tainted | untainted | polyTainting | wild =>
            simp only [bindingFault?, role, found]
            exact targetFaults (by simp [bears, binds, found, Marker.isBinding])
        | extendsBound | superBound | taintingParam => simp [bindingFault?, role, found]
  exact {
    aggregate := by rw [role]
    binder := binders
    modifier := by simp only [modifier?, role]
    target := targeted
    targetFault := targetFaults
    bindingFault := bindingFaults }

namespace ReadsAs

variable {vocabulary others : Vocabulary} {names : Renaming} {label : String → String}
  {use other : AnnotationUse} (reads : use.ReadsAs vocabulary others names label other)

include reads

/-- A parameter is bound under its new name. -/
theorem binderAt?_parameter (parameter : String)
    : other.binderAt? others (names.parameter parameter)
      = (use.binderAt? vocabulary parameter).map (Binder.rename names.symbol) := by
  unfold binderAt?
  rw [reads.binder]
  cases read : use.binder? vocabulary with
  | none => simp
  | some binder =>
      have bearing : use.bears vocabulary = true := by
        simp [bears, binds_of_binder?_eq_some read]
      rw [reads.target bearing]
      simp only [Option.map_eq_some_iff, names.parameter_injective.eq_iff, exists_eq_right]
      split <;> rfl

/-- A name that no parameter got is not bound. -/
theorem binderAt?_of_unnamed {parameter : String}
    (unnamed : ∀ name, names.parameter name ≠ parameter)
    : other.binderAt? others parameter = none := by
  unfold binderAt?
  rw [reads.binder]
  cases read : use.binder? vocabulary with
  | none => simp
  | some binder =>
      have bearing : use.bears vocabulary = true := by
        simp [bears, binds_of_binder?_eq_some read]
      rw [reads.target bearing, if_neg]
      intro targeted
      obtain ⟨name, _, named⟩ := Option.map_eq_some_iff.mp targeted
      exact unnamed name named

/-- A modifier of a parameter reads as the same one of the renamed parameter. -/
theorem modifierAt?_parameter (parameter : String)
    : other.modifierAt? others (names.parameter parameter)
      = use.modifierAt? vocabulary parameter := by
  unfold modifierAt?
  rw [reads.modifier]
  cases read : use.modifier? vocabulary with
  | none => simp
  | some modifier =>
      have bearing : use.bears vocabulary = true := by simp [bears, read]
      rw [reads.target bearing]
      simp only [Option.map_eq_some_iff, names.parameter_injective.eq_iff, exists_eq_right]

/-- A modifier is refused alike when the same parameters are bound. -/
theorem modifierFault? (missingBase : MissingBase) {bound reached : String → Bool}
    (same : ∀ parameter, reached (names.parameter parameter) = bound parameter)
    : other.modifierFault? others missingBase reached
      = (use.modifierFault? vocabulary missingBase bound).map
          (.relabel names.parameter label) := by
  unfold AnnotationUse.modifierFault?
  rw [reads.modifier]
  cases read : use.modifier? vocabulary with
  | none => rfl
  | some modifier =>
      have bearing : use.bears vocabulary = true := by simp [bears, read]
      rw [reads.target bearing]
      cases use.target? with
      | none => exact reads.targetFault bearing
      | some target =>
          simp only [Option.map_some, same]
          split <;> rfl

end ReadsAs

/-- Two lists of the same shape whose annotations correspond, what aggregates hold included. -/
inductive Mirrored (vocabulary others : Vocabulary) (names : Renaming) (label : String → String)
    : List AnnotationUse → List AnnotationUse → Prop where
  | nil : Mirrored vocabulary others names label [] []
  | cons {use other : AnnotationUse} {rest later : List AnnotationUse}
    (reads : use.ReadsAs vocabulary others names label other)
    (inside
      : Mirrored vocabulary others names label (use.contents vocabulary) (other.contents others))
    (after : Mirrored vocabulary others names label rest later)
    : Mirrored vocabulary others names label (use :: rest) (other :: later)

namespace Mirrored

variable {vocabulary others : Vocabulary} {names : Renaming} {label : String → String}
  {left right : List AnnotationUse} {α β : Type}

/-- Readings that agree on corresponding annotations agree along the documents. -/
theorem filterMap_document (mirrored : Mirrored vocabulary others names label left right)
    {before after : AnnotationUse → Option α}
    (same
      : ∀ use other : AnnotationUse,
          use.ReadsAs vocabulary others names label other → after other = before use)
    : (document others right).filterMap after = (document vocabulary left).filterMap before := by
  induction mirrored with
  | nil => simp
  | cons reads _ _ ihInside ihAfter =>
      rw [filterMap_document_cons, filterMap_document_cons, same _ _ reads, ihInside, ihAfter]

/-- What is found first in one document corresponds to what is found first in the other one. -/
theorem findSome?_document (mirrored : Mirrored vocabulary others names label left right)
    {before : AnnotationUse → Option α} {after : AnnotationUse → Option β} {f : α → β}
    (same
      : ∀ use other : AnnotationUse,
          use.ReadsAs vocabulary others names label other → after other = (before use).map f)
    : (document others right).findSome? after
      = ((document vocabulary left).findSome? before).map f := by
  rw [← List.head?_filterMap, ← List.head?_filterMap, mirrored.filterMap_document same,
    ← List.map_filterMap, List.head?_map]

variable {combine : α → α → α} {own : Binder → α}

/-- What corresponding annotations contribute to a parameter is folded alike. -/
theorem foldFrom_parameter (mirrored : Mirrored vocabulary others names label left right)
    (parameter : String) (folded : Option α)
    : foldFrom combine own others (names.parameter parameter) folded right
      = foldFrom combine (fun binder => own (binder.rename names.symbol)) vocabulary parameter
          folded left := by
  induction mirrored generalizing folded with
  | nil => simp
  | cons reads _ _ ihInside ihAfter =>
      rw [foldFrom_cons, foldFrom_cons, reads.binderAt?_parameter, ihInside, ihAfter,
        Option.map_map]
      rfl

/-- Nothing is contributed to a name that no parameter got. -/
theorem foldFrom_of_unnamed (mirrored : Mirrored vocabulary others names label left right)
    {parameter : String} (unnamed : ∀ name, names.parameter name ≠ parameter)
    (folded : Option α)
    : foldFrom combine own others parameter folded right = folded := by
  induction mirrored generalizing folded with
  | nil => simp
  | cons reads _ _ ihInside ihAfter =>
      rw [foldFrom_cons, reads.binderAt?_of_unnamed unnamed, ihInside, ihAfter]
      simp

end Mirrored

/-- Any annotation reads as it does. -/
theorem readsAs_self (vocabulary : Vocabulary) (use : AnnotationUse)
    : use.ReadsAs vocabulary vocabulary .identity id use := by
  apply readsAs_of_role
  · rfl
  · rfl
  · intro _
    simp [Renaming.identity]
  · intro _
    simp [Renaming.identity]
  · exact fun _ => rfl

/-- All annotations mirror themselves. -/
theorem mirrored_self (vocabulary : Vocabulary) (annotations : List AnnotationUse)
    : Mirrored vocabulary vocabulary .identity id annotations annotations := by
  induction annotations using documentInduction vocabulary with
  | nil => exact .nil
  | cons use rest ihContents ihRest => exact .cons (readsAs_self vocabulary use) ihContents ihRest

/-- A list mirrors itself with every leaf exchanged for one that reads alike. -/
theorem mirrored_amend {vocabulary : Vocabulary} {names : Renaming} {label : String → String}
    {change : AnnotationUse → AnnotationUse}
    (aggregates
      : ∀ use : AnnotationUse,
          vocabulary.classify? use.name = some .aggregate → label use.name = use.name)
    (leaf
      : ∀ use : AnnotationUse, vocabulary.classify? use.name ≠ some .aggregate
          → use.ReadsAs vocabulary vocabulary names label (change use))
    (annotations : List AnnotationUse)
    : Mirrored vocabulary vocabulary names label annotations
        (amend vocabulary (fun use => [change use]) annotations) := by
  induction annotations using documentInduction vocabulary with
  | nil =>
      rw [amend_nil]
      exact .nil
  | cons use rest ihContents ihRest =>
      by_cases aggregate : vocabulary.classify? use.name = some .aggregate
      · rw [amend_cons_of_aggregate aggregate]
        refine .cons ?_ ?_ ihRest
        · apply readsAs_of_role
          · rw [regroup_name]
          · rw [regroup_name, aggregates use aggregate]
          · intro bearing
            simp [bears, binds, aggregate, Marker.isBinding, modifier?] at bearing
          · intro var
            rw [aggregate] at var
            contradiction
          · intro _
            cases held : use.nested? "value" with
            | none => simp only [regroup, held]
            | some items =>
                have found := nested?_eq_some_iff.mp held
                simp [regroup_of_nested? held, written, element?_withElement, found,
                  ElementValue.text?]
        · rw [contents_regroup_amend aggregate]
          exact ihContents
      · have reads := leaf use aggregate
        rw [amend_cons_of_not_aggregate aggregate, List.singleton_append]
        refine .cons reads ?_ ihRest
        rw [contents_of_not_aggregate aggregate,
          contents_of_not_aggregate (mt reads.aggregate.mp aggregate)]
        exact .nil

end AnnotationUse

end QualifierBindings
