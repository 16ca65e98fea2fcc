import QualifierBindings.Proofs.Hierarchy.SoundRange

/-! Ranges that hold some qualifier. Being well formed compares only the extreme values of the two
bounds; over a lawful lattice this decides whether some values of the variables put the lower
bound below the upper one. The two bounds can be moved apart one at a time unless they are the
same variable, and then they never are.
-/

namespace QualifierBindings

variable {Q : Type} [DecidableEq Q] {L : GroundLattice Q}

namespace Valuation

/-- The valuation that gives some variables the chosen values and every other one its lower
bound. -/
def choosing (laws : L.LubLaws) (vars : List (Variable Q)) (choose : Variable Q → Q)
    (within
      : ∀ var ∈ vars,
          L.isSubtype var.lower (choose var) ∧ L.isSubtype (choose var) var.upper)
    : Valuation L where
  choose var := if var ∈ vars then choose var else var.lower
  above_lower var _ := by
    split
    · exact (within var ‹_›).1
    · exact laws.isSubtype_refl _
  below_upper var ordered := by
    split
    · exact (within var ‹_›).2
    · exact ordered

end Valuation

namespace Range

/-- The variables that stand at the bounds. -/
def symbols (range : Range Q) : List (Variable Q) :=
  range.lower.symbol?.toList ++ range.upper.symbol?.toList

theorem over_ordered_iff {range : Range Q}
    : (∀ var ∈ range.symbols, var ∈ L.ordered)
      ↔ range.lower.Over L.ordered ∧ range.upper.Over L.ordered := by
  have own (qualifier : Qualifier Q)
      : (∀ var ∈ qualifier.symbol?.toList, var ∈ L.ordered) ↔ qualifier.Over L.ordered := by
    cases qualifier <;> simp [Qualifier.symbol?, Qualifier.Over]
  rw [symbols, List.forall_mem_append, own, own]

/-- The lower bound at its lowest and the upper one at its highest value are reached together, by
raising the variable of the upper bound alone. -/
theorem exists_valuation_of_isWellFormed (laws : L.LubLaws) {range : Range Q}
    (wellFormed : range.isWellFormed L)
    : ∃ valuation : Valuation L,
        L.isSubtype (valuation.value range.lower) (valuation.value range.upper) := by
  unfold isWellFormed at wellFormed
  cases upper : range.upper with
  | ground value =>
      rw [upper] at wellFormed
      refine ⟨.lowest laws, ?_⟩
      rw [Valuation.value_lowest]
      exact wellFormed
  | symbolic var =>
      by_cases same : range.lower = .symbolic var
      -- the bounds cannot be chosen independently, and need not be
      · refine ⟨.lowest laws, ?_⟩
        rw [same]
        exact laws.isSubtype_refl _
      · rw [upper] at wellFormed
        refine ⟨.raising laws var, ?_⟩
        rw [Valuation.value_raising_self, Valuation.value_raising_of_ne laws same]
        exact wellFormed

/-- A range whose variables have their bounds in order is well formed exactly when some valuation
puts its lower bound below its upper one. Whatever values within their bounds are chosen for the
variables of the range, there is a valuation that chooses them. -/
theorem isWellFormed_iff_exists_valuation (L : GroundLattice Q) (laws : L.LubLaws)
    (range : Range Q) (ordered : ∀ var ∈ range.symbols, L.isSubtype var.lower var.upper)
    : (range.isWellFormed L = true
        ↔ ∃ valuation : Valuation L,
            L.isSubtype (valuation.value range.lower) (valuation.value range.upper))
      ∧ ∀ choose : Variable Q → Q,
          (∀ var ∈ range.symbols,
            L.isSubtype var.lower (choose var) ∧ L.isSubtype (choose var) var.upper)
          → ∃ valuation : Valuation L,
              ∀ var ∈ range.symbols, valuation.choose var = choose var := by
  obtain ⟨overLower, overUpper⟩ := over_ordered_iff.mp ordered
  refine ⟨⟨exists_valuation_of_isWellFormed laws, ?_⟩, ?_⟩
  · rintro ⟨valuation, below⟩
    exact isWellFormed_of_value_isSubtype laws overLower overUpper below
  · intro choose within
    refine ⟨.choosing laws range.symbols choose within, ?_⟩
    intro var member
    exact if_pos member

/-- Two variables of one name whose bounds overlap, and two that lie apart. -/
theorem isWellFormed_iff_exists_valuation_overlapping
    : (∃ valuation : Valuation .bits,
          GroundLattice.bits.isSubtype (valuation.value (.named "v" 2 6))
            (valuation.value (.named "v" 1 3)))
      ∧ ¬∃ valuation : Valuation .bits,
          GroundLattice.bits.isSubtype (valuation.value (.named "v" 4 6))
            (valuation.value (.named "w" 1 3)) := by
  have overlapping := isWellFormed_iff_exists_valuation .bits GroundLattice.lubLaws_bits
    ⟨.named "v" 2 6, .named "v" 1 3⟩ (by decide)
  have apart := isWellFormed_iff_exists_valuation .bits GroundLattice.lubLaws_bits
    ⟨.named "v" 4 6, .named "w" 1 3⟩ (by decide)
  exact ⟨overlapping.1.mp rfl, fun satisfied => absurd (apart.1.mpr satisfied) (by decide)⟩

end Range

end QualifierBindings
