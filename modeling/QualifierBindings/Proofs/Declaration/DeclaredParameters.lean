import QualifierBindings.Conversion.Declared
import QualifierBindings.Proofs.Annotation.Classification
import QualifierBindings.Proofs.Annotation.DocumentOrder

/-! The parameters that a declaration declares. Those declared explicitly are the string values of
the declaring annotations, first of those that stand on the declaration and then of those held by
its containers; the first one without a string is the error. Only the set of these annotations
counts for a result, so it does not matter in what order they stand, how often, or in which
container.
-/

namespace QualifierBindings

namespace Except

variable {α β ε : Type} {read : α → Except ε β}

/-- A reading of items one by one fails with the first fault. -/
theorem mapM_eq_error_iff {fault? : α → Option ε}
    (faults : ∀ item error, read item = .error error ↔ fault? item = some error)
    (items : List α) (error : ε)
    : items.mapM read = .error error ↔ items.findSome? fault? = some error := by
  induction items with
  | nil => simp [pure, Except.pure]
  | cons item rest ih =>
      rw [List.mapM_cons, List.findSome?_cons]
      cases own : read item with
      | error first =>
          rw [(faults item first).mp own]
          simp [bind, Except.bind]
      | ok value =>
          have sound : fault? item = none := by
            rw [Option.eq_none_iff_forall_ne_some]
            intro error fault
            rw [(faults item error).mpr fault] at own
            contradiction
          rw [sound, ← ih]
          cases rest.mapM read <;> simp [bind, Except.bind, pure, Except.pure]

/-- A reading of items one by one gives what is read from any of them. -/
theorem mem_of_mapM_eq_ok {items : List α} {values : List β}
    (ended : items.mapM read = .ok values) (value : β)
    : value ∈ values ↔ ∃ item ∈ items, read item = .ok value := by
  induction items generalizing values with
  | nil =>
      cases ended
      simp
  | cons item rest ih =>
      rw [List.mapM_cons] at ended
      cases own : read item with
      | error error => simp [own, bind, Except.bind] at ended
      | ok first =>
          cases later : rest.mapM read with
          | error error => simp [own, later, bind, Except.bind] at ended
          | ok others =>
              have whole : first :: others = values := by
                simpa [own, later, bind, Except.bind, pure, Except.pure] using ended
              rw [← whole, List.mem_cons, ih later]
              simp [own, eq_comm]

end Except

namespace AnnotationUse

/-- The error of an annotation whose element `value` is not a string. -/
def valueFault? (use : AnnotationUse) : Option ConversionError :=
  match use.element? "value" with
  | some (.text _) => none
  | some (.annotations _) => some (.elementMismatch use.name "value" .text .annotations)
  | none => some (.missingElement use.name "value")

/-- The name of a declared parameter cannot be read exactly when something is wrong with the value.
-/
theorem requiredText_eq_error_iff (use : AnnotationUse) (error : ConversionError)
    : Elements.requiredText use.name use.elements "value" = .error error
      ↔ use.valueFault? = some error := by
  unfold Elements.requiredText valueFault? element?
  cases Entries.get? "value" use.elements with
  | none => simp
  | some value => cases value <;> simp

/-- Otherwise it is the text of the value. -/
theorem requiredText_eq_ok_iff (use : AnnotationUse) (value : String)
    : Elements.requiredText use.name use.elements "value" = .ok value
      ↔ use.textElement? "value" = some value := by
  unfold Elements.requiredText textElement? element?
  cases Entries.get? "value" use.elements with
  | none => simp
  | some value => cases value <;> simp [ElementValue.text?]

/-- Nothing is wrong with a value that is a text. -/
theorem valueFault?_eq_none_iff {use : AnnotationUse}
    : use.valueFault? = none ↔ (use.textElement? "value").isSome = true := by
  unfold valueFault? textElement?
  cases use.element? "value" with
  | none => simp
  | some value => cases value <;> simp [ElementValue.text?]

/-- A value that is a text holds no annotations. -/
theorem nested?_of_valueFault?_eq_none {use : AnnotationUse} (sound : use.valueFault? = none)
    : use.nested? "value" = none := by
  unfold valueFault? at sound
  unfold nested?
  cases found : use.element? "value" with
  | none => rfl
  | some value => cases value <;> simp [found, ElementValue.items?] at sound ⊢

end AnnotationUse

namespace TypeUse

/-- Whether an annotation that stands directly on the type has the given marker. -/
def Bears (vocabulary : Vocabulary) (marker : Marker) (use : TypeUse) : Prop :=
  ∃ found ∈ use.annotations, vocabulary.classify? found.name = some marker

/-- A type bears a marker when an annotation directly on it has its name. -/
theorem isAnnotatedWith_iff_bears {vocabulary : Vocabulary} {marker : Marker}
    (single : marker ≠ .aggregate) {use : TypeUse}
    : use.isAnnotatedWith (vocabulary.qualifiedName marker) = true
      ↔ use.Bears vocabulary marker := by
  simp only [isAnnotatedWith, Bears, List.any_eq_true, decide_eq_true_iff,
    Vocabulary.classify?_eq_some_iff single]

end TypeUse

namespace Declaration

/-- The annotations that declare parameters: those that stand on the declaration, then those that
a container on it holds. -/
def declaring (vocabulary : Vocabulary) (declaration : Declaration) : List AnnotationUse :=
  (declaration.annotations ++ declaration.contained).filter
    (fun use => vocabulary.classify? use.name = some .taintingParam)

variable {vocabulary : Vocabulary} {declaration : Declaration}

/-- The declaring annotations are those found under their name. -/
theorem annotationsNamed_eq_declaring
    : declaration.annotationsNamed (vocabulary.qualifiedName .taintingParam)
      = declaration.declaring vocabulary := by
  have named (use : AnnotationUse)
      : use.name = vocabulary.qualifiedName .taintingParam
        ↔ vocabulary.classify? use.name = some .taintingParam :=
    (Vocabulary.classify?_eq_some_iff (by simp)).symm
  simp only [annotationsNamed, declaring, List.filter_append, named]

/-- Types declare the main parameter and polymorphic signatures theirs. -/
theorem mem_implicitParameters_iff {name : String}
    : name ∈ declaration.implicitParameters vocabulary
      ↔ (declaration.kind.isType = true ∧ name = Vocabulary.mainParameter)
        ∨ declaration.kind.isExecutable = true
          ∧ (∃ type ∈ declaration.signatureTypes, type.Bears vocabulary .polyTainting)
          ∧ name = Vocabulary.polyParameter := by
  have apart : declaration.kind.isType = true → declaration.kind.isExecutable = false := by
    cases declaration.kind <;> decide
  have single : Marker.polyTainting ≠ .aggregate := by simp
  have mentioned : declaration.hasPolySignature vocabulary = true
      ↔ ∃ type ∈ declaration.signatureTypes, type.Bears vocabulary .polyTainting := by
    simp only [hasPolySignature, List.any_eq_true, TypeUse.isAnnotatedWith_iff_bears single]
  unfold implicitParameters
  rw [← mentioned]
  cases typed : declaration.kind.isType with
  | true => simp [apart typed]
  | false =>
      cases declaration.kind.isExecutable <;> cases declaration.hasPolySignature vocabulary
        <;> simp

/-- Explicit parameters fail with the first faulty value. -/
theorem explicitParameters_eq_error_iff {error : ConversionError}
    : declaration.explicitParameters vocabulary = .error error
      ↔ (declaration.declaring vocabulary).findSome? AnnotationUse.valueFault? = some error := by
  rw [explicitParameters, annotationsNamed_eq_declaring]
  exact Except.mapM_eq_error_iff AnnotationUse.requiredText_eq_error_iff _ error

/-- Otherwise they are the texts of all declaring annotations. -/
theorem mem_of_explicitParameters_eq_ok {values : List String}
    (read : declaration.explicitParameters vocabulary = .ok values) (name : String)
    : name ∈ values
      ↔ ∃ use ∈ declaration.declaring vocabulary, use.textElement? "value" = some name := by
  rw [explicitParameters, annotationsNamed_eq_declaring] at read
  rw [Except.mem_of_mapM_eq_ok read]
  simp only [AnnotationUse.requiredText_eq_ok_iff]

/-- The declared parameters fail with the first declaring annotation that has no string. -/
theorem parameters_eq_error_iff {error : ConversionError}
    : declaration.parameters vocabulary = .error error
      ↔ (declaration.declaring vocabulary).findSome? AnnotationUse.valueFault? = some error := by
  rw [← explicitParameters_eq_error_iff, parameters]
  cases declaration.explicitParameters vocabulary <;> simp [Except.map]

/-- Without such a fault the declared parameters are the strings and the implicit ones. -/
theorem parameters_eq_ok_iff {names : NameMap Unit}
    : declaration.parameters vocabulary = .ok names
      ↔ (∀ use ∈ declaration.declaring vocabulary, use.valueFault? = none)
        ∧ ∀ name,
            name ∈ names.names
            ↔ (∃ use ∈ declaration.declaring vocabulary, use.textElement? "value" = some name)
              ∨ name ∈ declaration.implicitParameters vocabulary := by
  rw [← List.findSome?_eq_none_iff, parameters]
  cases read : declaration.explicitParameters vocabulary with
  | error error =>
      rw [explicitParameters_eq_error_iff.mp read]
      simp [Except.map]
  | ok values =>
      have sound
          : (declaration.declaring vocabulary).findSome? AnnotationUse.valueFault? = none := by
        rw [Option.eq_none_iff_forall_ne_some]
        intro error fault
        rw [explicitParameters_eq_error_iff.mpr fault] at read
        contradiction
      have declared (name : String)
          : name ∈ NameMap.names (.ofList
                ((values ++ declaration.implicitParameters vocabulary).map
                  (fun name => (name, ()))))
            ↔ (∃ use ∈ declaration.declaring vocabulary, use.textElement? "value" = some name)
              ∨ name ∈ declaration.implicitParameters vocabulary := by
        rw [NameMap.mem_names_ofList, ← mem_of_explicitParameters_eq_ok read]
        simp
      constructor
      · intro ended
        cases ended
        exact ⟨sound, declared⟩
      · rintro ⟨_, named⟩
        apply congrArg Except.ok
        exact NameMap.eq_of_mem_names_iff
          (fun name => (declared name).trans (named name).symm)

/-- Declaring annotations stand on the declaration or in a container. -/
theorem mem_declaring_iff {use : AnnotationUse}
    : use ∈ declaration.declaring vocabulary
      ↔ (use ∈ declaration.annotations ∨ use ∈ declaration.contained)
        ∧ vocabulary.classify? use.name = some .taintingParam := by
  rw [declaring, List.mem_filter, List.mem_append, decide_eq_true_iff]

/-- Only the set of declaring annotations counts for the declared parameters. -/
theorem parameters_eq_ok_iff_of_same {left right : List AnnotationUse} {names : NameMap Unit}
    (same
      : ∀ use,
          use ∈ { declaration with annotations := left }.declaring vocabulary
          ↔ use ∈ { declaration with annotations := right }.declaring vocabulary)
    : { declaration with annotations := left }.parameters vocabulary = .ok names
      ↔ { declaration with annotations := right }.parameters vocabulary = .ok names := by
  simp only [parameters_eq_ok_iff, same]
  rfl

/-- The annotations of a declaration may be permuted and repeated, and those that declare parameters
be put into a new container, or taken out of it again, all of it any number of times. -/
inductive Regrouped (vocabulary : Vocabulary)
    : List AnnotationUse → List AnnotationUse → Prop where
  | permuted {left right : List AnnotationUse} (same : ∀ use, use ∈ left ↔ use ∈ right)
    : Regrouped vocabulary left right
  | contained {moved : List AnnotationUse} {container : AnnotationUse}
    (declare : ∀ use ∈ moved, vocabulary.classify? use.name = some .taintingParam)
    (other : container.name ≠ vocabulary.qualifiedName .taintingParam)
    (holds : container.nested? "value" = some moved) (rest : List AnnotationUse)
    : Regrouped vocabulary (moved ++ rest) (container :: rest)
  | symm {left right : List AnnotationUse} (changed : Regrouped vocabulary left right)
    : Regrouped vocabulary right left
  | trans {left middle right : List AnnotationUse} (first : Regrouped vocabulary left middle)
    (second : Regrouped vocabulary middle right)
    : Regrouped vocabulary left right

section Contained

variable {moved rest : List AnnotationUse} {container use : AnnotationUse}

/-- A container adds the annotations that it holds and nothing else. The annotations themselves,
if they have strings, are no containers. -/
theorem mem_declaring_contained_iff (sound : ∀ use ∈ moved, use.valueFault? = none)
    (other : container.name ≠ vocabulary.qualifiedName .taintingParam)
    (holds : container.nested? "value" = some moved)
    : use ∈ { declaration with annotations := moved ++ rest }.declaring vocabulary
      ↔ use ∈ { declaration with annotations := container :: rest }.declaring vocabulary := by
  have closed : moved.flatMap (fun use => (use.nested? "value").getD []) = [] := by
    rw [List.flatMap_eq_nil_iff]
    intro use member
    rw [AnnotationUse.nested?_of_valueFault?_eq_none (sound use member), Option.getD_none]
  simp only [mem_declaring_iff, contained, List.flatMap_append, List.flatMap_cons, closed, holds,
    Option.getD_some, List.mem_append, List.mem_cons, List.nil_append]
  apply and_congr_left
  intro declares
  have different : use ≠ container := by
    rintro rfl
    exact other ((Vocabulary.classify?_eq_some_iff (by simp)).mp declares)
  rw [or_iff_right different, or_left_comm, or_assoc]

variable (declare : ∀ use ∈ moved, vocabulary.classify? use.name = some .taintingParam)
  (member : use ∈ moved)

include declare member

theorem moved_mem_declaring
    : use ∈ { declaration with annotations := moved ++ rest }.declaring vocabulary :=
  mem_declaring_iff.mpr ⟨.inl (List.mem_append_left rest member), declare use member⟩

theorem contained_mem_declaring (holds : container.nested? "value" = some moved)
    : use ∈ { declaration with annotations := container :: rest }.declaring vocabulary := by
  refine mem_declaring_iff.mpr ⟨.inr ?_, declare use member⟩
  exact List.mem_flatMap.mpr ⟨container, List.mem_cons_self, by rwa [holds]⟩

end Contained

/-- Regrouping changes the set of declaring annotations only where one of them has no string, and
then it is found before and after. -/
theorem parameters_eq_ok_iff_of_regrouped {left right : List AnnotationUse}
    (regrouped : Regrouped vocabulary left right) (names : NameMap Unit)
    : { declaration with annotations := left }.parameters vocabulary = .ok names
      ↔ { declaration with annotations := right }.parameters vocabulary = .ok names := by
  induction regrouped with
  | permuted same =>
      apply parameters_eq_ok_iff_of_same
      intro use
      simp only [mem_declaring_iff, contained, List.mem_flatMap, same]
  | contained declare other holds rest =>
      constructor
      · intro ended
        have sound := (parameters_eq_ok_iff.mp ended).1
        refine (parameters_eq_ok_iff_of_same (fun use => ?_)).mp ended
        exact mem_declaring_contained_iff
          (fun use member => sound use (moved_mem_declaring declare member)) other holds
      · intro ended
        have sound := (parameters_eq_ok_iff.mp ended).1
        refine (parameters_eq_ok_iff_of_same (fun use => ?_)).mpr ended
        exact mem_declaring_contained_iff
          (fun use member => sound use (contained_mem_declaring declare member holds)) other holds
  | symm _ ih => exact ih.symm
  | trans _ _ ihFirst ihSecond => exact ihFirst.trans ihSecond

/-- Declared parameters fail exactly when a declaring annotation has no string, with the error of
the first such one. Otherwise they are the strings of all declaring annotations, the main
parameter of classes, interfaces and enums and that of polymorphic signatures; and then it does not
matter in what order the annotations stand, how often, or in which containers. -/
theorem parameters_complete (vocabulary : Vocabulary) (declaration : Declaration)
    : (∀ error,
          declaration.parameters vocabulary = .error error
          ↔ (declaration.declaring vocabulary).findSome? AnnotationUse.valueFault? = some error)
      ∧ ((∀ use ∈ declaration.declaring vocabulary, (use.textElement? "value").isSome = true)
          → ∃ names,
              declaration.parameters vocabulary = .ok names
              ∧ ∀ name,
                  name ∈ names.names
                  ↔ (∃ use ∈ declaration.declaring vocabulary,
                        use.textElement? "value" = some name)
                    ∨ (declaration.kind ∈ [.classType, .interfaceType, .enumType]
                      ∧ name = Vocabulary.mainParameter)
                    ∨ declaration.kind ∈ [.constructor, .method]
                      ∧ (∃ type ∈ declaration.signatureTypes,
                          type.Bears vocabulary .polyTainting)
                      ∧ name = Vocabulary.polyParameter)
      ∧ ∀ annotations, Regrouped vocabulary declaration.annotations annotations
          → ∀ names,
              { declaration with annotations }.parameters vocabulary = .ok names
              ↔ declaration.parameters vocabulary = .ok names := by
  refine ⟨fun error => parameters_eq_error_iff, ?_, ?_⟩
  · intro sound
    cases ended : declaration.parameters vocabulary with
    | error error =>
        have fault := parameters_eq_error_iff.mp ended
        obtain ⟨use, member, faulty⟩ := List.exists_of_findSome?_eq_some fault
        rw [AnnotationUse.valueFault?_eq_none_iff.mpr (sound use member)] at faulty
        contradiction
    | ok names =>
        refine ⟨names, rfl, ?_⟩
        simpa only [mem_implicitParameters_iff, DeclarationKind.isType_iff,
          DeclarationKind.isExecutable_iff] using (parameters_eq_ok_iff.mp ended).2
  · intro annotations regrouped names
    exact (parameters_eq_ok_iff_of_regrouped regrouped names).symm

def declares (parameter : String) : AnnotationUse :=
  ⟨"q.TaintingParam", [("value", .text parameter)]⟩

def held (name : String) (items : List AnnotationUse) : AnnotationUse :=
  ⟨name, [("value", .annotations items)]⟩

/-- A class with the given annotations. -/
def box (annotations : List AnnotationUse) : Declaration :=
  { kind := .classType, name := "Box", annotations, signature := none }

/-- A parameter is moved into a container, which is then repeated. Of two annotations without a
string the one that stands on the declaration is reported, though the other one comes first. The
main parameter is declared by the class, and not by an annotation type. -/
theorem parameters_complete_regrouped
    : (∃ names,
        (box [declares "B", held "As" [declares "A"]]).parameters ⟨"q"⟩ = .ok names
        ∧ "A" ∈ names.names
        ∧ Vocabulary.mainParameter ∈ names.names
        ∧ (box
              [held "As" [declares "A"], held "Bs" [declares "B"],
                held "Bs" [declares "B"]]).parameters ⟨"q"⟩
            = .ok names)
      ∧ (∃ names,
          { box [declares "B"] with kind := .annotationType }.parameters ⟨"q"⟩ = .ok names
          ∧ "B" ∈ names.names
          ∧ Vocabulary.mainParameter ∉ names.names)
      ∧ (box [held "As" [⟨"q.TaintingParam", []⟩], held "q.TaintingParam" []]).parameters ⟨"q"⟩
        = .error (.elementMismatch "q.TaintingParam" "value" .text .annotations) := by
  refine ⟨?_, ?_, ((parameters_complete ⟨"q"⟩ _).1 _).mpr (by decide)⟩
  · obtain ⟨_, complete, regroup⟩ := parameters_complete ⟨"q"⟩
      (box [declares "B", held "As" [declares "A"]])
    obtain ⟨names, ended, named⟩ := complete (by decide)
    have moved : Regrouped ⟨"q"⟩ ([declares "B"] ++ [held "As" [declares "A"]])
        (held "Bs" [declares "B"] :: [held "As" [declares "A"]]) :=
      .contained (by decide) (by decide) rfl _
    refine ⟨names, ended, ?_, ?_, (regroup _ (moved.trans (.permuted ?_)) names).mpr ended⟩
    · exact (named "A").mpr (.inl ⟨_, List.mem_cons_of_mem _ List.mem_cons_self, rfl⟩)
    · exact (named _).mpr (.inr (.inl ⟨List.mem_cons_self, rfl⟩))
    · simp [or_comm]
  · obtain ⟨-, complete, -⟩ := parameters_complete ⟨"q"⟩
      { box [declares "B"] with kind := .annotationType }
    obtain ⟨names, ended, named⟩ := complete (by decide)
    refine ⟨names, ended, (named "B").mpr (.inl ⟨_, List.mem_cons_self, rfl⟩), ?_⟩
    intro main
    have unwritten : ∀ use ∈ declaring ⟨"q"⟩ { box [declares "B"] with kind := .annotationType },
        use.textElement? "value" ≠ some Vocabulary.mainParameter := by
      decide
    rcases (named _).mp main with ⟨use, member, written⟩ | ⟨typed, -⟩ | ⟨executable, -⟩
    · exact unwritten use member written
    · exact absurd typed (by decide)
    · exact absurd executable (by decide)

end Declaration

end QualifierBindings
