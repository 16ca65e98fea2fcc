import QualifierBindings.Proofs.Hierarchy.Widening

/-! Joins under all choices of values for the variables. Whatever value is chosen for each
variable between its bounds, a join lies above both of its arguments, so a fold lies above all
of its items: no choice makes the result of a conversion too small. The order `Below` carries
the argument, since every valuation respects it and the widening join never leaves it.
-/

namespace QualifierBindings

variable {Q : Type} [DecidableEq Q] {L : GroundLattice Q}

/-- A choice of a value for each variable, between the bounds of the variable when these are in
order. -/
structure Valuation (L : GroundLattice Q) where
  choose : Variable Q → Q
  above_lower : ∀ var ∈ L.ordered, L.isSubtype var.lower (choose var)
  below_upper : ∀ var ∈ L.ordered, L.isSubtype (choose var) var.upper

namespace Valuation

/-- A concrete qualifier stands for itself, a variable for its chosen value. -/
def value (valuation : Valuation L) : Qualifier Q → Q
  | .ground value => value
  | .symbolic var => valuation.choose var

/-- The valuation that gives every variable its lower bound. -/
def lowest (laws : L.LubLaws) : Valuation L where
  choose := Variable.lower
  above_lower _ _ := laws.isSubtype_refl _
  below_upper _ ordered := ordered

variable (valuation : Valuation L)

/-- No valuation goes below the lowest value. -/
theorem lowest_isSubtype_value (laws : L.LubLaws) {qualifier : Qualifier Q}
    (within : qualifier.Over L.ordered)
    : L.isSubtype qualifier.lowest (valuation.value qualifier) := by
  cases qualifier with
  | ground value => exact laws.isSubtype_refl value
  | symbolic var => exact valuation.above_lower var within

/-- No valuation goes above the highest value. -/
theorem value_isSubtype_highest (laws : L.LubLaws) {qualifier : Qualifier Q}
    (within : qualifier.Over L.ordered)
    : L.isSubtype (valuation.value qualifier) qualifier.highest := by
  cases qualifier with
  | ground value => exact laws.isSubtype_refl value
  | symbolic var => exact valuation.below_upper var within

/-- Valuations respect the order of qualifiers. -/
theorem value_isSubtype_value (laws : L.LubLaws) {a b : Qualifier Q} (overA : a.Over L.ordered)
    (overB : b.Over L.ordered) (below : L.Below a b)
    : L.isSubtype (valuation.value a) (valuation.value b) := by
  rcases below with rfl | below
  · exact laws.isSubtype_refl _
  · have upper := valuation.value_isSubtype_highest laws overA
    have lower := valuation.lowest_isSubtype_value laws overB
    exact laws.isSubtype_trans upper (laws.isSubtype_trans below lower)

end Valuation

namespace GroundLattice

namespace LubLaws

/-- Of qualifiers in order the lowest values are in order. -/
theorem lowest_isSubtype_lowest (laws : L.LubLaws) {a b : Qualifier Q}
    (within : a.Over L.ordered) (below : L.Below a b)
    : L.isSubtype a.lowest b.lowest := by
  rcases below with rfl | below
  · exact laws.isSubtype_refl _
  · exact laws.isSubtype_trans (laws.lowest_isSubtype_highest within) below

/-- Of qualifiers in order the highest values are in order. -/
theorem highest_isSubtype_highest (laws : L.LubLaws) {a b : Qualifier Q}
    (within : b.Over L.ordered) (below : L.Below a b)
    : L.isSubtype a.highest b.highest := by
  rcases below with rfl | below
  · exact laws.isSubtype_refl _
  · exact laws.isSubtype_trans below (laws.lowest_isSubtype_highest within)

/-- A fold has no other variables than its items and its start. -/
theorem over_foldl_join (laws : L.LubLaws) {family : Set (Variable Q)}
    {items : List (Qualifier Q)} (within : ∀ item ∈ items, item.Over family)
    {start : Qualifier Q} (overStart : start.Over family)
    : (items.foldl L.hierarchy.join start).Over family := by
  induction items generalizing start with
  | nil => exact overStart
  | cons item rest ih =>
      obtain ⟨overItem, overRest⟩ := List.forall_mem_cons.mp within
      exact ih overRest (laws.over_join overStart overItem)

/-- A fold lies above what it starts from and above all of its items. -/
theorem below_foldl_join (laws : L.LubLaws) {items : List (Qualifier Q)}
    (within : ∀ item ∈ items, item.Over L.ordered) {start : Qualifier Q}
    (overStart : start.Over L.ordered)
    : L.Below start (items.foldl L.hierarchy.join start)
      ∧ ∀ item ∈ items, L.Below item (items.foldl L.hierarchy.join start) := by
  induction items generalizing start with
  | nil => exact ⟨Or.inl rfl, by simp⟩
  | cons item rest ih =>
      obtain ⟨overItem, overRest⟩ := List.forall_mem_cons.mp within
      have overNext := laws.over_join overStart overItem
      obtain ⟨belowNext, belowRest⟩ := ih overRest overNext
      refine ⟨laws.below_trans overNext (laws.below_join_left overStart item) belowNext, ?_⟩
      intro other member
      rcases List.mem_cons.mp member with rfl | later
      · exact laws.below_trans overNext (laws.below_join_right start overItem) belowNext
      · exact belowRest other later

end LubLaws

/-- Over any lattice a join lies above both of its arguments, under every valuation and in its
extreme values, and keeps no variable but theirs; so each accumulator of a fold from bottom lies
above all items folded so far. A greatest top absorbs every qualifier, and a least bottom
settles it. -/
theorem value_isSubtype_join (L : GroundLattice Q) (laws : L.LubLaws)
    : (∀ a b : Qualifier Q, a.Over L.ordered → b.Over L.ordered
          → (∀ valuation : Valuation L,
                L.isSubtype (valuation.value a) (valuation.value (L.hierarchy.join a b))
                ∧ L.isSubtype (valuation.value b) (valuation.value (L.hierarchy.join a b)))
            ∧ (∀ var,
                L.hierarchy.join a b = .symbolic var → a = .symbolic var ∨ b = .symbolic var)
            ∧ (L.isSubtype a.lowest (L.hierarchy.join a b).lowest
                ∧ L.isSubtype b.lowest (L.hierarchy.join a b).lowest)
            ∧ L.isSubtype a.highest (L.hierarchy.join a b).highest
              ∧ L.isSubtype b.highest (L.hierarchy.join a b).highest)
      ∧ (∀ items : List (Qualifier Q), (∀ item ∈ items, item.Over L.ordered)
          → ∀ folded, folded <+: items → ∀ item ∈ folded, ∀ valuation : Valuation L,
              L.isSubtype (valuation.value item)
                (valuation.value (folded.foldl L.hierarchy.join (.ground L.bottom))))
      ∧ ((∀ value, L.isSubtype L.bottom value) → (∀ value, L.isSubtype value L.top)
          → ∀ a,
              (L.hierarchy.join (.ground L.top) a = .ground L.top
                ∧ L.hierarchy.join a (.ground L.top) = .ground L.top)
              ∧ L.hierarchy.join (.ground L.bottom) a = L.settle a
                ∧ L.hierarchy.join a (.ground L.bottom) = L.settle a) := by
  refine ⟨?_, ?_, ?_⟩
  · intro a b overA overB
    have within := laws.over_join overA overB
    have belowA := laws.below_join_left overA b
    have belowB := laws.below_join_right a overB
    refine ⟨?_, fun var => laws.join_eq_symbolic, ?_, ?_⟩
    · intro valuation
      exact ⟨valuation.value_isSubtype_value laws overA within belowA,
        valuation.value_isSubtype_value laws overB within belowB⟩
    · exact ⟨laws.lowest_isSubtype_lowest overA belowA, laws.lowest_isSubtype_lowest overB belowB⟩
    · exact ⟨laws.highest_isSubtype_highest within belowA,
        laws.highest_isSubtype_highest within belowB⟩
  · intro items within folded initial item member valuation
    have overFolded : ∀ item ∈ folded, item.Over L.ordered :=
      fun item member => within item (initial.subset member)
    have overStart : (Qualifier.ground L.bottom).Over L.ordered := trivial
    have overFold := laws.over_foldl_join overFolded overStart
    have below := (laws.below_foldl_join overFolded overStart).2 item member
    exact valuation.value_isSubtype_value laws (overFolded item member) overFold below
  · intro least greatest a
    rw [laws.join_comm a, laws.join_comm a]
    exact ⟨⟨laws.top_join greatest a, laws.top_join greatest a⟩,
      ⟨laws.bottom_join least a, laws.bottom_join least a⟩⟩

/-- A variable below a value, one that overlaps both, and a pinned one. -/
def mixed : List (Qualifier UInt8) :=
  [.named "v" 0 1, .ground 2, .named "w" 1 3, .named "p" 4 4]

theorem value_isSubtype_join_mixed
    : (∀ item ∈ mixed, item.Over bits.ordered)
      ∧ bits.isSubtype (Qualifier.named "w" 1 3).highest
          (bits.hierarchy.join (.named "v" 0 1) (.named "w" 1 3)).highest
      ∧ bits.isSubtype ((Valuation.lowest lubLaws_bits).value (.named "w" 1 3))
          ((Valuation.lowest lubLaws_bits).value
            ((mixed.take 3).foldl bits.hierarchy.join (.ground bits.bottom)))
      ∧ bits.hierarchy.join (.named "p" 4 4) (.ground bits.bottom) = .ground 4 := by
  have within : ∀ item ∈ mixed, item.Over bits.ordered := by
    simp only [mixed, List.forall_mem_cons]
    exact ⟨rfl, trivial, rfl, rfl, by simp⟩
  have member : Qualifier.named "w" 1 3 ∈ mixed.take 3 := by decide
  have least : ∀ value, bits.isSubtype bits.bottom value := by
    intro value
    exact decide_eq_true UInt8.zero_or
  have greatest : ∀ value, bits.isSubtype value bits.top := by
    intro value
    exact decide_eq_true UInt8.or_neg_one
  have bounds := value_isSubtype_join bits lubLaws_bits
  refine ⟨within, ?_, ?_, ?_⟩
  · exact (bounds.1 (.named "v" 0 1) (.named "w" 1 3) rfl rfl).2.2.2.2
  · exact bounds.2.1 mixed within (mixed.take 3) (List.take_prefix 3 mixed) _ member _
  · exact (bounds.2.2 least greatest (.named "p" 4 4)).2.2

end GroundLattice

end QualifierBindings
