import QualifierBindings.Proofs.Hierarchy.Widening

/-! When folds with the widening join do not depend on the order of their items. Over a chain of
three values two free variables can already lie one below the other; a concrete value between
them is then absorbed by the upper variable, unless the two variables have met before. Without
such variables every order gives the same result, and associativity fails exactly with them.
-/

namespace QualifierBindings

variable {Q : Type} [DecidableEq Q] {L : GroundLattice Q}

namespace GroundLattice

namespace LubLaws

section Stacked

variable {low high : Variable Q} (freeLow : low ∈ L.free) (freeHigh : high ∈ L.free)
  (stacked : L.isSubtype low.upper high.lower)

include freeLow freeHigh stacked

/-- Two variables that meet first are widened for good. -/
theorem join_stacked_first (laws : L.LubLaws)
    : L.hierarchy.join (L.hierarchy.join (.symbolic high) (.symbolic low)) (.ground low.upper)
      = .ground (L.lub high.upper low.upper) := by
  have different : high ≠ low := by
    rintro rfl
    exact freeHigh stacked
  rw [laws.join_free_free freeHigh freeLow different, Hierarchy.join_ground]
  change Qualifier.ground (L.lub (L.lub high.upper low.upper) low.upper) = _
  rw [laws.assoc, laws.idem]

/-- The upper variable absorbs the lower one once the latter has become a value. -/
theorem join_stacked_last (laws : L.LubLaws)
    : L.hierarchy.join (.symbolic high)
          (L.hierarchy.join (.symbolic low) (.ground low.upper))
      = .symbolic high := by
  have widened
      : L.hierarchy.join (.symbolic low) (.ground low.upper) = .ground low.upper := by
    rw [laws.join_comm, laws.join_ground_free freeLow, joinVariable, if_neg freeLow, laws.idem]
  rw [widened, laws.join_comm, laws.join_ground_free freeHigh, joinVariable, if_pos stacked]

end Stacked

/-- Where the join is associative, folds of the same items in any order agree. -/
theorem foldl_join_eq_of_perm (laws : L.LubLaws) {family : Set (Variable Q)}
    (assoc
      : ∀ a b c : Qualifier Q, a.Over family → b.Over family → c.Over family
          → L.hierarchy.join (L.hierarchy.join a b) c
            = L.hierarchy.join a (L.hierarchy.join b c))
    {items others : List (Qualifier Q)} (order : items.Perm others)
    (within : ∀ item ∈ items, item.Over family) {start : Qualifier Q}
    (overStart : start.Over family)
    : items.foldl L.hierarchy.join start = others.foldl L.hierarchy.join start := by
  -- `List.Perm.foldl_eq'` asks for all accumulators, here only those over the variables commute
  induction order generalizing start with
  | nil => rfl
  | cons item _ ih =>
      obtain ⟨overItem, overRest⟩ := List.forall_mem_cons.mp within
      exact ih overRest (laws.over_join overStart overItem)
  | swap first second rest =>
      obtain ⟨overSecond, overLater⟩ := List.forall_mem_cons.mp within
      obtain ⟨overFirst, _⟩ := List.forall_mem_cons.mp overLater
      simp only [List.foldl_cons]
      rw [assoc start second first overStart overSecond overFirst, laws.join_comm second,
        ← assoc start first second overStart overFirst overSecond]
  | trans earlier _ ihEarlier ihLater =>
      have overMiddle := fun item member => within item (earlier.mem_iff.mpr member)
      exact (ihEarlier within overStart).trans (ihLater overMiddle overStart)

end LubLaws

/-- Over any lattice the widening join is commutative and idempotent. On all qualifiers over
some variables, whose bounds are in order, it is associative exactly when no free variable
among them lies below another one; and exactly then folds from bottom come out the same for
every order of their items. -/
theorem join_assoc_iff_unstacked (L : GroundLattice Q) (laws : L.LubLaws)
    (bottom_lub : ∀ value, L.lub L.bottom value = value) (family : Set (Variable Q))
    (ordered : family ⊆ L.ordered)
    : (∀ a b, L.hierarchy.join a b = L.hierarchy.join b a)
      ∧ (∀ a, L.hierarchy.join a a = a)
      ∧ ((∀ a b c : Qualifier Q, a.Over family → b.Over family → c.Over family
            → L.hierarchy.join (L.hierarchy.join a b) c
              = L.hierarchy.join a (L.hierarchy.join b c))
          ↔ L.Unstacked (family ∩ L.free))
      ∧ ((∀ items others : List (Qualifier Q), items.Perm others
            → (∀ item ∈ items, item.Over family)
            → items.foldl L.hierarchy.join (.ground L.bottom)
              = others.foldl L.hierarchy.join (.ground L.bottom))
          ↔ L.Unstacked (family ∩ L.free)) := by
  have assoc_of_unstacked (unstacked : L.Unstacked (family ∩ L.free)) (a b c : Qualifier Q)
      (overA : a.Over family) (overB : b.Over family) (overC : c.Over family)
      : L.hierarchy.join (L.hierarchy.join a b) c
        = L.hierarchy.join a (L.hierarchy.join b c) :=
    laws.join_assoc unstacked (Set.inter_subset_left.trans ordered) (over_settle overA)
      (over_settle overB) (over_settle overC)
  refine ⟨laws.join_comm, laws.join_idem, ⟨?_, assoc_of_unstacked⟩, ⟨?_, ?_⟩⟩
  · rintro assoc low ⟨overLow, freeLow⟩ high ⟨overHigh, freeHigh⟩ stacked
    have same := assoc (.symbolic high) (.symbolic low) (.ground low.upper) overHigh overLow
      trivial
    rw [laws.join_stacked_first freeLow freeHigh stacked,
      laws.join_stacked_last freeLow freeHigh stacked] at same
    contradiction
  · rintro independent low ⟨overLow, freeLow⟩ high ⟨overHigh, freeHigh⟩ stacked
    have from_bottom {var : Variable Q} (free : var ∈ L.free)
        : L.hierarchy.join (.ground L.bottom) (.symbolic var) = .symbolic var := by
      rw [laws.join_ground_free free, joinVariable, if_pos]
      exact decide_eq_true (bottom_lub _)
    -- the lower variable meets the value between the two before or after the upper one
    have same := independent
      [.symbolic high, .symbolic low, .ground low.upper]
      [.symbolic low, .ground low.upper, .symbolic high]
      ((List.Perm.swap _ _ _).trans ((List.Perm.swap _ _ _).cons _))
      (by
        simp only [List.forall_mem_cons]
        exact ⟨overHigh, overLow, trivial, by simp⟩)
    simp only [List.foldl_cons, List.foldl_nil, from_bottom freeLow, from_bottom freeHigh] at same
    rw [laws.join_stacked_first freeLow freeHigh stacked, laws.join_comm _ (.symbolic high),
      laws.join_stacked_last freeLow freeHigh stacked] at same
    contradiction
  · intro unstacked items others order within
    exact laws.foldl_join_eq_of_perm (assoc_of_unstacked unstacked) order within trivial

/-- Variables over sets of bits that overlap, and one that is pinned to a single set. -/
def overlapping : Set (Variable UInt8) :=
  { ⟨"v", 1, 3⟩, ⟨"w", 1, 5⟩, ⟨"p", 1, 1⟩ }

theorem join_assoc_iff_unstacked_overlapping
    : overlapping ⊆ bits.ordered
      ∧ [.named "v" 1 3, .named "p" 1 1, .named "w" 1 5].foldl bits.hierarchy.join
            (.ground bits.bottom)
        = [.named "p" 1 1, .named "w" 1 5, .named "v" 1 3].foldl bits.hierarchy.join
            (.ground bits.bottom) := by
  have ordered : overlapping ⊆ bits.ordered := by
    rintro var (rfl | rfl | rfl)
    · rfl
    · rfl
    · rfl
  have free {var : Variable UInt8} (member : var ∈ overlapping ∩ bits.free)
      : var = ⟨"v", 1, 3⟩ ∨ var = ⟨"w", 1, 5⟩ := by
    obtain ⟨rfl | rfl | rfl, free⟩ := member
    · exact Or.inl rfl
    · exact Or.inr rfl
    · exact absurd rfl free
  have unstacked : bits.Unstacked (overlapping ∩ bits.free) := by
    intro low freeLow high freeHigh
    rcases free freeLow with rfl | rfl <;> rcases free freeHigh with rfl | rfl <;> decide
  refine ⟨ordered, ?_⟩
  apply (join_assoc_iff_unstacked bits lubLaws_bits (fun _ => UInt8.zero_or) overlapping
    ordered).2.2.2.mpr unstacked
  · exact (List.Perm.swap _ _ _).trans ((List.Perm.swap _ _ _).cons _)
  · simp only [List.forall_mem_cons]
    exact ⟨Or.inl rfl, Or.inr (Or.inr rfl), Or.inr (Or.inl rfl), by simp⟩

/-- Over sets of bits the upper one of two stacked variables survives or not, as the order of
the items has it, so the join is not associative there. -/
theorem foldl_join_bits_of_stacked
    : [.named "v" 1 3, .named "w" 0 1, .ground 1].foldl bits.hierarchy.join (.ground bits.bottom)
        = .ground 3
      ∧ [.named "w" 0 1, .ground 1, .named "v" 1 3].foldl bits.hierarchy.join
          (.ground bits.bottom)
        = .named "v" 1 3
      ∧ ¬∀ a b c : Qualifier UInt8,
          a.Over bits.ordered → b.Over bits.ordered → c.Over bits.ordered
          → bits.hierarchy.join (bits.hierarchy.join a b) c
            = bits.hierarchy.join a (bits.hierarchy.join b c) := by
  refine ⟨by decide, by decide, ?_⟩
  intro assoc
  have same := assoc (.named "v" 1 3) (.named "w" 0 1) (.ground 1) rfl rfl trivial
  revert same
  decide

end GroundLattice

end QualifierBindings
