import QualifierBindings.Proofs.Conversion.Outcome
import QualifierBindings.Proofs.Hierarchy.SoundRange

/-! The ranges in the result of a conversion. For any hierarchy they are generated from the
ranges of binders by joining and by opening bounds, whatever aggregates and modifiers there are;
so over the tainting lattice, and over the inverted one, they are sound.
-/

namespace QualifierBindings

variable {Q : Type}

/-- Modifiers generate ranges from generated ones. -/
theorem Range.Generated.applyAll {H : Hierarchy Q} {given : Range Q → Prop} {range : Range Q}
    (generated : range.Generated H given) (modifiers : List Modifier)
    : (Modifier.applyAll H.toGroundLattice modifiers range).Generated H given := by
  induction modifiers generalizing range with
  | nil => exact generated
  | cons modifier rest ih =>
      rw [Modifier.applyAll_cons]
      cases modifier with
      | extendsBound => exact ih generated.lowerOpened
      | superBound => exact ih generated.upperOpened

/-- A binder's range is sound: its variable ranges over the whole lattice. -/
theorem Binder.sound_range [DecidableEq Q] {L : GroundLattice Q} (laws : L.LubLaws)
    (least : ∀ value, L.isSubtype L.bottom value) (binder : Binder)
    : (binder.range L).Sound L := by
  cases binder with
  | top | bottom => exact .exact laws trivial
  | named name => exact .exact laws (least L.top)
  | anything =>
      have single : (Range.ground L.top).Sound L := .exact laws trivial
      exact single.withLower least

namespace Converter

open AnnotationUse GroundLattice

/-- Every range of a result is generated from the ranges of binders. -/
theorem generated_of_convert_eq_ok {converter : Converter Q} {annotations : List AnnotationUse}
    {bindings : Bindings Q}
    (converted : (converter.convert annotations).outcome = .ok (some bindings))
    {parameter : String} {range : Range Q} (bound : bindings.get? parameter = some range)
    : range.Generated converter.hierarchy
        (fun given => ∃ binder : Binder, given = binder.range converter.hierarchy.toGroundLattice)
      := by
  obtain ⟨reached, answered, known⟩ := answer_of_convert_eq_ok converted
  obtain rfl := eq_of_answer_eq_some answered.symm
  rw [known] at bound
  obtain ⟨folded, contributed, rfl⟩ := Option.map_eq_some_iff.mp bound
  refine Range.Generated.applyAll ?_ _
  apply holds_foldFrom _ _ none (by simp) annotations folded contributed
  · exact fun binder => .given ⟨binder, rfl⟩
  · exact fun _ _ first second => .combined first second

/-- Over both tainting lattices, whatever is generated from sound ranges by joining them and
by opening their bounds is sound, and sound ranges are well formed. So every range in the result
of a conversion is sound and well formed. -/
theorem generated_sound_and_converted_sound
    : ∀ L ∈ [tainting, inverted],
        (∀ range : Range Taint, range.Generated L.hierarchy (Range.Sound L) → range.Sound L)
        ∧ (∀ range : Range Taint, range.Sound L → range.isWellFormed L = true)
        ∧ ∀ vocabulary missingBase annotations bindings,
            (convert { vocabulary, hierarchy := L.hierarchy, missingBase } annotations).outcome
              = .ok (some bindings)
            → ∀ parameter range,
                bindings.get? parameter = some range
                → range.Sound L ∧ range.isWellFormed L = true := by
  intro L member
  have two : L.TwoPoint := by
    simp only [List.mem_cons, List.not_mem_nil, or_false] at member
    rcases member with rfl | rfl
    · exact twoPoint_tainting
    · exact twoPoint_inverted
  have laws := two.lubLaws
  refine ⟨fun _ generated => .of_generated two generated, fun _ sound => sound.isWellFormed laws,
    ?_⟩
  intro vocabulary missingBase annotations bindings converted parameter range bound
  have generated := generated_of_convert_eq_ok converted bound
  have sound : range.Sound L := by
    apply Range.Sound.of_generated two
    apply generated.mono
    rintro _ ⟨binder, rfl⟩
    exact binder.sound_range laws two.least
  exact ⟨sound, sound.isWellFormed laws⟩

/-- Two variables for one parameter inside an aggregate, whose joined bounds a modifier opens. -/
def openedVariables : List AnnotationUse :=
  [⟨"q.Multi", [("value", .annotations
      [⟨"q.Var", [("value", .text "v")]⟩, ⟨"q.Extends", []⟩, ⟨"q.PolyTainting", []⟩])]⟩]

theorem generated_sound_and_converted_sound_openedVariables
    : inverted ∈ [tainting, inverted]
      ∧ (Range.combine inverted.hierarchy.join inverted.hierarchy.join
          (Range.withLower (.exact (.named "v" .tainted .untainted)) (.ground .tainted))
          (.exact (.named "p" .tainted .tainted))).Sound inverted
      ∧ ∃ bindings,
          (convert { vocabulary := ⟨"q"⟩, hierarchy := inverted.hierarchy, missingBase := .error }
              openedVariables).outcome = .ok (some bindings)
          ∧ bindings.get? "Main" = some (Range.between .tainted .untainted)
          ∧ (Range.between Taint.tainted .untainted).isWellFormed inverted := by
  have member : inverted ∈ [tainting, inverted] := by simp
  have sound := generated_sound_and_converted_sound inverted member
  have laws := twoPoint_inverted.lubLaws
  refine ⟨member, ?_, ?_⟩
  · apply sound.1
    exact .combined (.lowerOpened (.given (.exact laws rfl))) (.given (.exact laws rfl))
  · exact ⟨_, rfl, rfl, (sound.2.2 ⟨"q"⟩ .error openedVariables _ rfl "Main" _ rfl).2⟩

end Converter

end QualifierBindings
