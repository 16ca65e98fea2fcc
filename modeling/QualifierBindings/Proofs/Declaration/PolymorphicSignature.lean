import QualifierBindings.Conversion.Converter
import QualifierBindings.Proofs.Declaration.DeclaredParameters

/-! The parameter of a polymorphic signature. A conversion follows aggregates to any depth, but a
declaration looks only at the annotations that stand directly on the types of its signature. So a
declaration never makes up the parameter, and it misses it exactly where the marker is held by
aggregates alone.
-/

namespace QualifierBindings

namespace TypeUse

open AnnotationUse

/-- Whether a conversion of the type's annotations comes to one with the given marker. -/
def Mentions (vocabulary : Vocabulary) (marker : Marker) (use : TypeUse) : Prop :=
  ∃ leaf ∈ leaves vocabulary use.annotations, vocabulary.classify? leaf.name = some marker

/-- A marker is mentioned directly or inside an aggregate. -/
theorem mentions_iff {vocabulary : Vocabulary} {marker : Marker} (single : marker ≠ .aggregate)
    {use : TypeUse}
    : use.Mentions vocabulary marker
      ↔ use.Bears vocabulary marker
        ∨ ∃ found ∈ use.annotations, ∃ leaf ∈ leaves vocabulary (found.contents vocabulary),
            vocabulary.classify? leaf.name = some marker := by
  constructor
  · rintro ⟨leaf, member, marked⟩
    rcases mem_leaves_iff_exists.mp member with ⟨direct, _⟩ | ⟨found, direct, inside⟩
    · exact .inl ⟨leaf, direct, marked⟩
    · exact .inr ⟨found, direct, leaf, inside, marked⟩
  · rintro (⟨leaf, direct, marked⟩ | ⟨found, direct, leaf, inside, marked⟩)
    · have other : vocabulary.classify? leaf.name ≠ some .aggregate := by
        rw [marked]
        exact fun same => single (Option.some.inj same)
      exact ⟨leaf, mem_leaves_iff_exists.mpr (.inl ⟨direct, other⟩), marked⟩
    · exact ⟨leaf, mem_leaves_iff_exists.mpr (.inr ⟨found, direct, inside⟩), marked⟩

end TypeUse

namespace Declaration

/-- The polymorphic parameter is declared explicitly, or the declaration is a method or constructor
whose signature has a type of the given sort. -/
def CallsForPoly (vocabulary : Vocabulary) (found : TypeUse → Prop) (declaration : Declaration)
    : Prop :=
  (∃ use ∈ declaration.declaring vocabulary,
    use.textElement? "value" = some Vocabulary.polyParameter)
  ∨ declaration.kind.isExecutable = true ∧ ∃ type ∈ declaration.signatureTypes, found type

variable {vocabulary : Vocabulary} {declaration : Declaration}

theorem CallsForPoly.mono {found others : TypeUse → Prop} (among : ∀ type, found type → others type)
    (called : declaration.CallsForPoly vocabulary found)
    : declaration.CallsForPoly vocabulary others := by
  rcases called with explicit | ⟨executable, type, member, holds⟩
  · exact .inl explicit
  · exact .inr ⟨executable, type, member, among type holds⟩

/-- A declaration takes notice of the markers that its types bear. -/
theorem poly_mem_names_iff {names : NameMap Unit}
    (declared : declaration.parameters vocabulary = .ok names)
    : Vocabulary.polyParameter ∈ names.names
      ↔ declaration.CallsForPoly vocabulary (TypeUse.Bears vocabulary .polyTainting) := by
  have different : Vocabulary.polyParameter ≠ Vocabulary.mainParameter := by decide
  rw [(parameters_eq_ok_iff.mp declared).2]
  simp only [mem_implicitParameters_iff, CallsForPoly, different, and_false, false_or, and_true]

/-- A method or constructor does not declare the polymorphic parameter although the types of its
signature mention the marker: only aggregates hold it. -/
structure HidesPoly (vocabulary : Vocabulary) (declaration : Declaration) : Prop where
  executable : declaration.kind.isExecutable = true
  mentioned : ∃ type ∈ declaration.signatureTypes, type.Mentions vocabulary .polyTainting
  unborne : ∀ type ∈ declaration.signatureTypes, ¬type.Bears vocabulary .polyTainting
  undeclared
    : ∀ use ∈ declaration.declaring vocabulary,
        use.textElement? "value" ≠ some Vocabulary.polyParameter

/-- The polymorphic parameter is declared exactly when it is declared explicitly or a type of the
signature bears the marker; then conversions meet the marker too. Declarations and conversions
agree about it except where aggregates hide it. -/
theorem poly_mem_parameters_iff (vocabulary : Vocabulary) (declaration : Declaration)
    {names : NameMap Unit} (declared : declaration.parameters vocabulary = .ok names)
    : (Vocabulary.polyParameter ∈ names.names
        ↔ declaration.CallsForPoly vocabulary (TypeUse.Bears vocabulary .polyTainting))
      ∧ (Vocabulary.polyParameter ∈ names.names
          → declaration.CallsForPoly vocabulary (TypeUse.Mentions vocabulary .polyTainting))
      ∧ ((Vocabulary.polyParameter ∈ names.names
            ↔ declaration.CallsForPoly vocabulary (TypeUse.Mentions vocabulary .polyTainting))
          ↔ ¬declaration.HidesPoly vocabulary) := by
  have borne := poly_mem_names_iff declared
  have mentioned (present : Vocabulary.polyParameter ∈ names.names)
      : declaration.CallsForPoly vocabulary (TypeUse.Mentions vocabulary .polyTainting) :=
    (borne.mp present).mono (fun type bears => (TypeUse.mentions_iff (by simp)).mpr (.inl bears))
  refine ⟨borne, mentioned, ?_⟩
  constructor
  · intro agree hidden
    rcases borne.mp (agree.mpr (.inr ⟨hidden.executable, hidden.mentioned⟩))
      with ⟨use, member, named⟩ | ⟨_, type, member, bears⟩
    · exact hidden.undeclared use member named
    · exact hidden.unborne type member bears
  · intro shown
    refine ⟨mentioned, ?_⟩
    rintro (explicit | ⟨executable, inSignature⟩)
    · exact borne.mpr (.inl explicit)
    · by_cases present : Vocabulary.polyParameter ∈ names.names
      · exact present
      · refine absurd ⟨executable, inSignature, ?_, ?_⟩ shown
        · intro type member bears
          exact present (borne.mpr (.inr ⟨executable, type, member, bears⟩))
        · intro use member named
          exact present (borne.mpr (.inl ⟨use, member, named⟩))

/-- A type on which the marker is repeated, so that it stands in a container. -/
def repeatedPoly : TypeUse :=
  ⟨"Pair",
    [⟨"q.MultiPolyTainting", [("value", .annotations
      [⟨"q.PolyTainting", [("target", .text "A")]⟩,
        ⟨"q.PolyTainting", [("target", .text "B")]⟩])]⟩]⟩

theorem mentions_repeatedPoly : repeatedPoly.Mentions ⟨"q"⟩ .polyTainting := by
  refine (TypeUse.mentions_iff (by simp)).mpr (.inr ⟨_, List.mem_cons_self, ?_⟩)
  refine ⟨⟨"q.PolyTainting", [("target", .text "A")]⟩, ?_, by decide⟩
  exact AnnotationUse.mem_leaves_iff_exists.mpr (.inl ⟨List.mem_cons_self, by decide⟩)

/-- A method with the given result type that takes a parameter of the type above. -/
def swap (result : TypeUse) : Declaration where
  kind := .method
  name := "swap"
  annotations := []
  signature := some { result := some result, receiver := none, parameters := [repeatedPoly] }

/-- The result type bears the marker, so nothing is hidden. -/
theorem poly_mem_parameters_iff_borne
    : (swap ⟨"Pair", [⟨"q.PolyTainting", []⟩]⟩).parameters ⟨"q"⟩ = .ok (.singleton "_poly" ())
      ∧ (swap ⟨"Pair", [⟨"q.PolyTainting", []⟩]⟩).CallsForPoly ⟨"q"⟩
          (TypeUse.Mentions ⟨"q"⟩ .polyTainting)
      ∧ ¬(swap ⟨"Pair", [⟨"q.PolyTainting", []⟩]⟩).HidesPoly ⟨"q"⟩ := by
  have declared
      : (swap ⟨"Pair", [⟨"q.PolyTainting", []⟩]⟩).parameters ⟨"q"⟩ = .ok (.singleton "_poly" ()) :=
    rfl
  obtain ⟨borne, mentioned, agree⟩ := poly_mem_parameters_iff ⟨"q"⟩ _ declared
  have present := borne.mpr
    (.inr ⟨rfl, _, List.mem_cons_self, _, List.mem_cons_self, by decide⟩)
  exact ⟨declared, mentioned present, agree.mp ⟨mentioned, fun _ => present⟩⟩

/-- With the repeated marker alone the method declares nothing, although the converter binds both
parameters of the type to the variable. -/
theorem poly_hidden_by_aggregate
    : (swap ⟨"Pair", []⟩).parameters ⟨"q"⟩ = .ok .empty
      ∧ (Converter.convert
            { vocabulary := ⟨"q"⟩, hierarchy := GroundLattice.tainting.hierarchy,
              missingBase := .error }
            repeatedPoly.annotations).outcome
          = .ok (some (.ofList
              [("A", .exact (.named "_poly" .untainted .tainted)),
                ("B", .exact (.named "_poly" .untainted .tainted))]))
      ∧ ¬∀ (declaration : Declaration) (names : NameMap Unit),
          declaration.parameters ⟨"q"⟩ = .ok names
          → (Vocabulary.polyParameter ∈ names.names
            ↔ declaration.CallsForPoly ⟨"q"⟩ (TypeUse.Mentions ⟨"q"⟩ .polyTainting)) := by
  refine ⟨rfl, rfl, ?_⟩
  intro agree
  have present := (agree (swap ⟨"Pair", []⟩) .empty rfl).mpr
    (.inr ⟨rfl, repeatedPoly, List.mem_cons_of_mem _ List.mem_cons_self, mentions_repeatedPoly⟩)
  exact absurd present (by decide)

end Declaration

end QualifierBindings
