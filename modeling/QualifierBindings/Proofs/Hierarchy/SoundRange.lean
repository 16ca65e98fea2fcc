import QualifierBindings.Range
import QualifierBindings.Proofs.Hierarchy.TwoPoint
import QualifierBindings.Proofs.Hierarchy.Valuation

/-! Ranges whose lower bound lies below the upper one, whatever the variables stand for. That
a range is well formed is not kept by joins, since it compares extreme values only; to be sound
in this sense is, as long as no free variable lies below another one. The argument goes through
the order `Below`: it is what all valuations agree on, and the join is monotone in it.
-/

namespace QualifierBindings

variable {Q : Type}

namespace Range

/-- What is made of given ranges by joining them and by opening their bounds. -/
inductive Generated (H : Hierarchy Q) (given : Range Q → Prop) : Range Q → Prop where
  | given {range : Range Q} (holds : given range) : Generated H given range
  | combined {old new : Range Q} (first : Generated H given old) (second : Generated H given new)
    : Generated H given (combine H.join H.join old new)
  | lowerOpened {range : Range Q} (generated : Generated H given range)
    : Generated H given (range.withLower (.ground H.bottom))
  | upperOpened {range : Range Q} (generated : Generated H given range)
    : Generated H given (range.withUpper (.ground H.top))

/-- Ranges that are generated from some are generated from any more of them. -/
theorem Generated.mono {H : Hierarchy Q} {given others : Range Q → Prop}
    (among : ∀ range, given range → others range) {range : Range Q}
    (generated : range.Generated H given)
    : range.Generated H others := by
  induction generated with
  | given holds => exact .given (among _ holds)
  | combined _ _ first second => exact .combined first second
  | lowerOpened _ ih => exact .lowerOpened ih
  | upperOpened _ ih => exact .upperOpened ih

end Range

variable [DecidableEq Q] {L : GroundLattice Q}

namespace Valuation

/-- The valuation that gives one variable its upper bound and every other one its lower bound. -/
def raising (laws : L.LubLaws) (raised : Variable Q) : Valuation L where
  choose var := if var = raised then var.upper else var.lower
  above_lower var ordered := by
    split
    · exact ordered
    · exact laws.isSubtype_refl _
  below_upper var ordered := by
    split
    · exact laws.isSubtype_refl _
    · exact ordered

/-- Under the lowest valuation a qualifier stands for its lowest value. -/
@[simp] theorem value_lowest (laws : L.LubLaws) (qualifier : Qualifier Q)
    : (lowest laws).value qualifier = qualifier.lowest := by
  cases qualifier <;> rfl

@[simp] theorem value_raising_self (laws : L.LubLaws) (raised : Variable Q)
    : (raising laws raised).value (.symbolic raised) = raised.upper :=
  if_pos rfl

/-- Where one variable is raised all other qualifiers stand for their lowest values. -/
theorem value_raising_of_ne (laws : L.LubLaws) {raised : Variable Q} {qualifier : Qualifier Q}
    (other : qualifier ≠ .symbolic raised)
    : (raising laws raised).value qualifier = qualifier.lowest := by
  cases qualifier with
  | ground value => rfl
  | symbolic var =>
      have different : var ≠ raised := fun same => other (congrArg Qualifier.symbolic same)
      exact if_neg different

end Valuation

namespace GroundLattice

/-- A settled qualifier lies below the qualifier. -/
theorem settle_below (laws : L.LubLaws) (qualifier : Qualifier Q)
    : L.Below (L.settle qualifier) qualifier := by
  cases qualifier with
  | ground value => exact Or.inl rfl
  | symbolic var =>
      by_cases pinned : L.isSubtype var.upper var.lower
      · simp only [settle, pinned]
        exact Or.inr (laws.isSubtype_refl var.lower)
      · simp only [settle, pinned]
        exact Or.inl rfl

namespace LubLaws

/-- One qualifier lies below another one exactly when every valuation says so. -/
theorem below_iff_forall_valuation (laws : L.LubLaws) {a b : Qualifier Q}
    (overA : a.Over L.ordered) (overB : b.Over L.ordered)
    : L.Below a b
      ↔ ∀ valuation : Valuation L, L.isSubtype (valuation.value a) (valuation.value b) := by
  constructor
  · intro below valuation
    exact valuation.value_isSubtype_value laws overA overB below
  · intro agreed
    cases a with
    | ground value =>
        have lowered := agreed (Valuation.lowest laws)
        rw [Valuation.value_lowest, Valuation.value_lowest] at lowered
        exact Or.inr lowered
    | symbolic var =>
        by_cases same : b = .symbolic var
        · exact Or.inl same.symm
        -- raising the variable alone leaves `b` at its lowest value
        · have raised := agreed (Valuation.raising laws var)
          rw [Valuation.value_raising_self, Valuation.value_raising_of_ne laws same] at raised
          exact Or.inr raised

section Monotone

variable {family : Set (Variable Q)} {a b c d : Qualifier Q}

/-- Settling respects the order. -/
theorem settle_below_settle (laws : L.LubLaws) (ordered : family ⊆ L.ordered)
    (overA : a.Over family) (overC : c.Over family) (below : L.Below a c)
    : L.Below (L.settle a) (L.settle c) := by
  have lower := laws.below_trans (overA.mono ordered) (settle_below laws a) below
  exact laws.below_trans (overC.mono ordered) lower (below_settle c)

/-- The join is monotone where no free variable lies below another one: settled arguments have
a least upper bound, and settling changes nothing up to the order. -/
theorem join_below_join (laws : L.LubLaws) (ordered : family ⊆ L.ordered)
    (unstacked : L.Unstacked (family ∩ L.free)) (overA : a.Over family) (overB : b.Over family)
    (overC : c.Over family) (overD : d.Over family) (first : L.Below a c)
    (second : L.Below b d)
    : L.Below (L.hierarchy.join a b) (L.hierarchy.join c d) := by
  have settled {qualifier : Qualifier Q} (inFamily : qualifier.Over family)
      : (L.settle qualifier).Over L.ordered :=
    (over_settle inFamily).mono (Set.inter_subset_left.trans ordered)
  have belowC := laws.below_trans (settled overC)
    (laws.settle_below_settle ordered overA overC first)
    (laws.below_join_left (settled overC) (L.settle d))
  have belowD := laws.below_trans (settled overD)
    (laws.settle_below_settle ordered overB overD second)
    (laws.below_join_right (L.settle c) (settled overD))
  have joined := laws.join_below unstacked (over_settle overA) (over_settle overB) belowC belowD
  rw [← laws.settle_join, ← laws.settle_join] at joined
  -- the joins lie below their settled forms and above them
  have upper := laws.below_trans (settled (laws.over_join overC overD)) joined
    (settle_below laws _)
  exact laws.below_trans (settled (laws.over_join overA overB)) (below_settle _) upper

end Monotone

end LubLaws

end GroundLattice

namespace Range

/-- One valuation that puts the lower bound below the upper one makes a range well formed: the
extreme values lie further apart. -/
theorem isWellFormed_of_value_isSubtype (laws : L.LubLaws) {range : Range Q}
    (overLower : range.lower.Over L.ordered) (overUpper : range.upper.Over L.ordered)
    {valuation : Valuation L}
    (below : L.isSubtype (valuation.value range.lower) (valuation.value range.upper))
    : range.isWellFormed L := by
  have lowest := valuation.lowest_isSubtype_value laws overLower
  have highest := valuation.value_isSubtype_highest laws overUpper
  exact laws.isSubtype_trans lowest (laws.isSubtype_trans below highest)

/-- Under every valuation the lower bound lies below the upper one. The variables of both have
their bounds in order. -/
structure Sound (L : GroundLattice Q) (range : Range Q) : Prop where
  lower_ordered : range.lower.Over L.ordered
  upper_ordered : range.upper.Over L.ordered
  value_isSubtype
    : ∀ valuation : Valuation L,
        L.isSubtype (valuation.value range.lower) (valuation.value range.upper)

namespace Sound

variable {range : Range Q}

/-- The bounds of a sound range lie in order. -/
theorem below (laws : L.LubLaws) (sound : range.Sound L) : L.Below range.lower range.upper :=
  (laws.below_iff_forall_valuation sound.lower_ordered sound.upper_ordered).mpr
    sound.value_isSubtype

/-- A range of one qualifier is sound. -/
theorem exact (laws : L.LubLaws) {qualifier : Qualifier Q} (ordered : qualifier.Over L.ordered)
    : (Range.exact qualifier).Sound L where
  lower_ordered := ordered
  upper_ordered := ordered
  value_isSubtype _ := laws.isSubtype_refl _

/-- A range stays sound when its lower bound is opened. -/
theorem withLower (least : ∀ value, L.isSubtype L.bottom value) (sound : range.Sound L)
    : (range.withLower (.ground L.bottom)).Sound L where
  lower_ordered := trivial
  upper_ordered := sound.upper_ordered
  value_isSubtype _ := least _

/-- A range stays sound when its upper bound is opened. -/
theorem withUpper (greatest : ∀ value, L.isSubtype value L.top) (sound : range.Sound L)
    : (range.withUpper (.ground L.top)).Sound L where
  lower_ordered := sound.lower_ordered
  upper_ordered := trivial
  value_isSubtype _ := greatest _

/-- Joins keep sound ranges sound where no free variable lies below another one. -/
theorem combine (laws : L.LubLaws) (unstacked : L.Unstacked (L.ordered ∩ L.free))
    {old new : Range Q} (first : old.Sound L) (second : new.Sound L)
    : (Range.combine L.hierarchy.join L.hierarchy.join old new).Sound L := by
  have lowerOrdered := laws.over_join first.lower_ordered second.lower_ordered
  have upperOrdered := laws.over_join first.upper_ordered second.upper_ordered
  have below := laws.join_below_join Set.Subset.rfl unstacked first.lower_ordered
    second.lower_ordered first.upper_ordered second.upper_ordered (first.below laws)
    (second.below laws)
  exact ⟨lowerOrdered, upperOrdered,
    (laws.below_iff_forall_valuation lowerOrdered upperOrdered).mp below⟩

/-- Sound ranges are well formed. -/
theorem isWellFormed (laws : L.LubLaws) (sound : range.Sound L) : range.isWellFormed L :=
  isWellFormed_of_value_isSubtype laws sound.lower_ordered sound.upper_ordered
    (sound.value_isSubtype (Valuation.lowest laws))

/-- Over a lattice of two values, whatever is generated from sound ranges is sound. -/
theorem of_generated (two : L.TwoPoint) (generated : range.Generated L.hierarchy (Sound L))
    : range.Sound L := by
  have unstacked : L.Unstacked (L.ordered ∩ L.free) :=
    fun low lowMember high highMember => two.unstacked_free low lowMember.2 high highMember.2
  induction generated with
  | given holds => exact holds
  | combined _ _ first second => exact combine two.lubLaws unstacked first second
  | lowerOpened _ ih => exact ih.withLower two.least
  | upperOpened _ ih => exact ih.withUpper two.greatest

end Sound

/-- Two well-formed ranges whose join is not: the lower bounds are widened to top. -/
example
    : isWellFormed .tainting ⟨.named "v" .untainted .tainted, .ground .untainted⟩
      ∧ isWellFormed .tainting ⟨.named "w" .untainted .tainted, .ground .untainted⟩
      ∧ ¬isWellFormed .tainting
          (combine GroundLattice.tainting.hierarchy.join GroundLattice.tainting.hierarchy.join
            ⟨.named "v" .untainted .tainted, .ground .untainted⟩
            ⟨.named "w" .untainted .tainted, .ground .untainted⟩) := by
  decide

end Range

end QualifierBindings
