import QualifierBindings.Proofs.Conversion.Translation

/-! Conversions under translations of the lattice. A conversion reads a lattice through its
extreme values and its joins alone, so over a translated hierarchy it ends with the translated
bindings, and with the same error when it fails. Over the inverted tainting lattice every
conversion therefore mirrors the one over the tainting lattice.
-/

namespace QualifierBindings

variable {Q R : Type} {f : Q → R}

namespace Converter

open AnnotationUse GroundLattice

/-- A conversion over a translated hierarchy ends with the translated bindings. -/
theorem outcome_convert_map {H : Hierarchy Q} {K : Hierarchy R} (embeds : H.Embeds K f)
    (vocabulary : Vocabulary) (missingBase : MissingBase) (annotations : List AnnotationUse)
    : (convert { vocabulary, hierarchy := K, missingBase } annotations).outcome
      = (convert { vocabulary, hierarchy := H, missingBase } annotations).outcome.map
          (Option.map (NameMap.mapValues (Range.map f))) := by
  -- the names stay, so the annotations mirror themselves
  have same := @outcome_convert_mirrored _ _ { vocabulary, hierarchy := H, missingBase }
    { vocabulary, hierarchy := K, missingBase } .identity id f annotations annotations
    embeds.translates (mirrored_self vocabulary annotations) rfl
  have errors : ConversionError.relabel Renaming.identity.parameter id = id :=
    funext ConversionError.relabel_id
  have bindings : Bindings.translate .identity f = NameMap.mapValues (Range.map f) :=
    funext (Bindings.translate_identity f)
  rw [same, bindings, errors]
  cases (convert { vocabulary, hierarchy := H, missingBase } annotations).outcome <;> rfl

/-- Over the inverted tainting lattice every conversion ends with the bindings of the tainting
lattice, both taints exchanged, or with the same error. Joins of qualifiers with any bounds, and
what makes a range well formed, are mirrored in the same way. -/
theorem convert_inverted_eq_swap
    : (∀ vocabulary missingBase annotations,
          (convert { vocabulary, hierarchy := inverted.hierarchy, missingBase }
              annotations).outcome
            = (convert { vocabulary, hierarchy := tainting.hierarchy, missingBase }
                annotations).outcome.map
                (Option.map (NameMap.mapValues (Range.map Taint.swap))))
      ∧ (∀ a b : Qualifier Taint,
          inverted.hierarchy.join (a.map Taint.swap) (b.map Taint.swap)
            = (tainting.hierarchy.join a b).map Taint.swap)
      ∧ ∀ range : Range Taint,
          (range.map Taint.swap).isWellFormed inverted = range.isWellFormed tainting
          ∧ (range.map Taint.swap).isWellFormed tainting = range.isWellFormed inverted := by
  have mirrored := embeds_swap_tainting.hierarchy
  refine ⟨outcome_convert_map mirrored, fun a b => (mirrored.join a b).symm, ?_⟩
  intro range
  exact ⟨embeds_swap_tainting.isWellFormed_map range, embeds_swap_inverted.isWellFormed_map range⟩

/-- An opened range and a variable over the tainting lattice, and upside down. -/
example
    : (let annotations : List AnnotationUse :=
         [⟨"q.Untainted", []⟩, ⟨"q.Super", []⟩,
           ⟨"q.Var", [("target", .text "X"), ("value", .text "v")]⟩]
       let converted (L : GroundLattice Taint) :=
         (convert { vocabulary := ⟨"q"⟩, hierarchy := L.hierarchy, missingBase := .error }
           annotations).outcome
       converted tainting
         = .ok (some (.ofList [("Main", .between .untainted .tainted),
             ("X", .exact (.named "v" .untainted .tainted))]))
       ∧ converted inverted
         = .ok (some (.ofList [("Main", .between .tainted .untainted),
             ("X", .exact (.named "v" .tainted .untainted))]))) := by
  decide +kernel

/-- Upside down, a free variable reaches from tainted to untainted and absorbs one that is
pinned to tainted. -/
example
    : inverted.hierarchy.join (.named "v" .tainted .untainted) (.named "p" .tainted .tainted)
      = .named "v" .tainted .untainted := by
  decide

end Converter

end QualifierBindings
