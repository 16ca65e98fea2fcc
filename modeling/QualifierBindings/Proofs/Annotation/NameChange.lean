import QualifierBindings.Proofs.Annotation.Mirroring

/-! Annotations under other names. When every name, at any depth, is changed to one that another
vocabulary takes for the same marker, the changed annotations mirror the old ones.
-/

namespace QualifierBindings

namespace AnnotationUse

mutual

/-- The names of an annotation and of all annotations in it, whatever elements hold them. -/
def names : AnnotationUse → List String
  | ⟨name, elements⟩ => name :: namesInElements elements

def namesInElements : List (String × ElementValue AnnotationUse) → List String
  | [] => []
  | (_, value) :: rest => namesInValue value ++ namesInElements rest

def namesInValue : ElementValue AnnotationUse → List String
  | .text _ => []
  | .annotations items => namesInAll items

/-- The names in annotations in order. -/
def namesInAll : List AnnotationUse → List String
  | [] => []
  | use :: rest => names use ++ namesInAll rest

end

mutual

/-- An annotation with its name, and those of all annotations in it, changed. -/
def mapNames (change : String → String) : AnnotationUse → AnnotationUse
  | ⟨name, elements⟩ => ⟨change name, mapNamesInElements change elements⟩

def mapNamesInElements (change : String → String)
    : List (String × ElementValue AnnotationUse) → List (String × ElementValue AnnotationUse)
  | [] => []
  | (element, value) :: rest =>
      (element, mapNamesInValue change value) :: mapNamesInElements change rest

def mapNamesInValue (change : String → String)
    : ElementValue AnnotationUse → ElementValue AnnotationUse
  | .text value => .text value
  | .annotations items => .annotations (mapNamesInAll change items)

/-- Annotations with the names in them changed, in order. -/
def mapNamesInAll (change : String → String) : List AnnotationUse → List AnnotationUse
  | [] => []
  | use :: rest => mapNames change use :: mapNamesInAll change rest

end

/-- The own name of an annotation is one of its names. -/
theorem name_mem_names (use : AnnotationUse) : use.name ∈ use.names := by
  cases use
  rw [names]
  exact List.mem_cons_self

/-- The names in several annotations are those in each of them. -/
theorem namesInAll_eq_flatMap (annotations : List AnnotationUse)
    : namesInAll annotations = annotations.flatMap names := by
  induction annotations with
  | nil => rfl
  | cons use rest ih => rw [namesInAll, List.flatMap_cons, ih]

/-- The names in an element are names in all elements. -/
theorem mem_namesInElements {element : String} {value : ElementValue AnnotationUse}
    {elements : List (String × ElementValue AnnotationUse)} (held : (element, value) ∈ elements)
    {name : String} (member : name ∈ namesInValue value)
    : name ∈ namesInElements elements := by
  induction elements with
  | nil => simp at held
  | cons head rest ih =>
      rw [namesInElements, List.mem_append]
      rcases List.mem_cons.mp held with rfl | later
      · exact .inl member
      · exact .inr (ih later)

/-- The names in nested annotations are among those of the annotation around them. -/
theorem mem_names_of_nested? {use item : AnnotationUse} {element : String}
    {items : List AnnotationUse} (found : use.nested? element = some items)
    (held : item ∈ items) {name : String} (member : name ∈ item.names)
    : name ∈ use.names := by
  have entry := Entries.mem_of_get?_eq_some (nested?_eq_some_iff.mp found)
  have inside : name ∈ namesInValue (.annotations items) := by
    rw [namesInValue, namesInAll_eq_flatMap]
    exact List.mem_flatMap.mpr ⟨item, held, member⟩
  cases use with
  | mk own elements =>
      rw [names]
      exact List.mem_cons_of_mem own (mem_namesInElements entry inside)

section Change

variable {change : String → String}

@[simp] theorem mapNames_name (use : AnnotationUse)
    : (use.mapNames change).name = change use.name := by
  cases use
  rw [mapNames]

theorem mapNamesInAll_eq_map (annotations : List AnnotationUse)
    : mapNamesInAll change annotations = annotations.map (mapNames change) := by
  induction annotations with
  | nil => rfl
  | cons use rest ih => rw [mapNamesInAll, List.map_cons, ih]

/-- Elements stay under their names, and what they hold is changed. -/
theorem element?_mapNames (use : AnnotationUse) (element : String)
    : (use.mapNames change).element? element
      = (use.element? element).map (mapNamesInValue change) := by
  cases use with
  | mk name elements =>
      rw [mapNames]
      unfold element?
      induction elements with
      | nil => rfl
      | cons head rest ih =>
          obtain ⟨other, value⟩ := head
          rw [mapNamesInElements, Entries.get?, Entries.get?]
          split
          · rfl
          · exact ih

/-- A text holds no annotation names. -/
theorem text?_mapNamesInValue (value : ElementValue AnnotationUse)
    : (mapNamesInValue change value).text? = value.text? := by
  cases value with
  | text value => rw [mapNamesInValue]
  | annotations items =>
      rw [mapNamesInValue]
      rfl

/-- Texts in elements stay when names are changed. -/
theorem written_mapNames (use : AnnotationUse) (element : String)
    : (use.mapNames change).written element = use.written element := by
  unfold written
  rw [element?_mapNames, Option.map_map]
  congr 1
  funext value
  exact text?_mapNamesInValue value

/-- Nested annotations are changed one by one. -/
theorem nested?_mapNames (use : AnnotationUse) (element : String)
    : (use.mapNames change).nested? element
      = (use.nested? element).map (List.map (mapNames change)) := by
  unfold nested?
  rw [element?_mapNames]
  cases use.element? element with
  | none => rfl
  | some value =>
      cases value with
      | text value => rfl
      | annotations items =>
          simp [mapNamesInValue, ElementValue.items?, mapNamesInAll_eq_map]

variable {vocabulary others : Vocabulary}

/-- Changed annotations mirror the old ones when every name keeps its marker. -/
theorem mirrored_mapNames (annotations : List AnnotationUse)
    (kept
      : ∀ use ∈ annotations, ∀ name ∈ use.names,
          others.classify? (change name) = vocabulary.classify? name)
    : Mirrored vocabulary others .identity change annotations
        (annotations.map (mapNames change)) := by
  induction annotations using documentInduction vocabulary with
  | nil => exact .nil
  | cons use rest ihContents ihRest =>
      obtain ⟨keptUse, keptRest⟩ := List.forall_mem_cons.mp kept
      have role : others.classify? (use.mapNames change).name = vocabulary.classify? use.name := by
        rw [mapNames_name]
        exact keptUse use.name (name_mem_names use)
      have contents
          : (use.mapNames change).contents others
            = (use.contents vocabulary).map (mapNames change) := by
        unfold AnnotationUse.contents
        rw [role, nested?_mapNames]
        split
        · cases use.nested? "value" <;> rfl
        · rfl
      have keptInside
          : ∀ item ∈ use.contents vocabulary, ∀ name ∈ item.names,
              others.classify? (change name) = vocabulary.classify? name := by
        intro item held name member
        unfold AnnotationUse.contents at held
        split at held
        · cases found : use.nested? "value" with
          | none => simp [found] at held
          | some items =>
              rw [found, Option.getD_some] at held
              exact keptUse name (mem_names_of_nested? found held member)
        · simp at held
      refine .cons ?_ ?_ (ihRest keptRest)
      · apply readsAs_of_role role (mapNames_name use)
        · intro _
          simp [written_mapNames, Renaming.identity]
        · intro _
          simp [written_mapNames, Renaming.identity]
        · intro _
          rw [written_mapNames]
      · rw [contents]
        exact ihContents keptInside

end Change

end AnnotationUse

end QualifierBindings
