import Mathlib.Data.Set.Basic
import QualifierBindings.Proofs.Hierarchy.Order

/-! The widening join over any lawful lattice. It is commutative and idempotent, it commutes
with settling, and it never lies below one of its arguments. Two variables that lie wholly
below each other are widened all the same, so only among other variables is it the least upper
bound, and associative: `join_assoc_iff_unstacked` says so for any set of variables.
-/

namespace QualifierBindings

variable {Q : Type} [DecidableEq Q] {L : GroundLattice Q}

namespace GroundLattice

/-- Settling again changes nothing. -/
theorem settle_settle (qualifier : Qualifier Q)
    : L.settle (L.settle qualifier) = L.settle qualifier := by
  cases qualifier with
  | ground value => rfl
  | symbolic var =>
      by_cases pinned : L.isSubtype var.upper var.lower
      · simp [settle, pinned]
      · simp [settle, pinned]

/-- Only a free variable settles to a variable, and then to itself. -/
theorem settle_eq_symbolic {qualifier : Qualifier Q} {var : Variable Q}
    (settled : L.settle qualifier = .symbolic var)
    : qualifier = .symbolic var := by
  cases qualifier with
  | ground value => simp [settle] at settled
  | symbolic other =>
      simp only [settle] at settled
      split at settled
      · contradiction
      · exact settled

/-- A variable that is left by settling is free. -/
theorem free_of_settle_eq_symbolic {qualifier : Qualifier Q} {var : Variable Q}
    (settled : L.settle qualifier = .symbolic var)
    : var ∈ L.free := by
  have found := settle_eq_symbolic settled
  intro pinned
  rw [found, settle, if_pos pinned] at settled
  contradiction

/-- Settling leaves free variables only, and no new ones. -/
theorem over_settle {family : Set (Variable Q)} {qualifier : Qualifier Q}
    (within : qualifier.Over family)
    : (L.settle qualifier).Over (family ∩ L.free) := by
  cases qualifier with
  | ground value => trivial
  | symbolic var =>
      by_cases pinned : L.isSubtype var.upper var.lower
      · simp [settle, pinned, Qualifier.Over]
      · simp only [settle, pinned]
        exact ⟨within, pinned⟩

/-- A free variable is settled. -/
theorem settle_of_free {var : Variable Q} (free : var ∈ L.free)
    : L.settle (.symbolic var) = .symbolic var :=
  if_neg free

/-- Where no variable lies below itself all are settled. -/
theorem settle_of_unstacked {family : Set (Variable Q)} (unstacked : L.Unstacked family)
    {qualifier : Qualifier Q} (within : qualifier.Over family)
    : L.settle qualifier = qualifier := by
  cases qualifier with
  | ground value => rfl
  | symbolic var => exact settle_of_free (unstacked var within var within)

/-- A qualifier lies below the settled one. -/
theorem below_settle (qualifier : Qualifier Q) : L.Below qualifier (L.settle qualifier) := by
  cases qualifier with
  | ground value => exact Or.inl rfl
  | symbolic var =>
      by_cases pinned : L.isSubtype var.upper var.lower
      · simp only [settle, pinned]
        exact Or.inr pinned
      · simp only [settle, pinned]
        exact Or.inl rfl

/-- Widening makes up no variable. -/
theorem widen_eq_symbolic {a b : Qualifier Q} {var : Variable Q}
    (widened : L.widen a b = .symbolic var)
    : a = .symbolic var ∨ b = .symbolic var := by
  cases a <;> cases b <;> grind [widen, joinVariable]

namespace LubLaws

/-- Widening does not see the order of its sides. -/
theorem widen_comm (laws : L.LubLaws) (a b : Qualifier Q) : L.widen a b = L.widen b a := by
  cases a <;> cases b <;> simp [widen, laws.comm]

/-- The widened qualifier lies above its first side. -/
theorem below_widen_left (laws : L.LubLaws) (a b : Qualifier Q) : L.Below a (L.widen a b) := by
  cases a with
  | ground x =>
      cases b with
      | ground y => exact Or.inr (laws.isSubtype_lub_left x y)
      | symbolic w =>
          by_cases absorbed : L.isSubtype x w.lower
          · simp only [widen, joinVariable, absorbed, if_true]
            exact Or.inr absorbed
          · simp only [widen, joinVariable, absorbed]
            exact Or.inr (laws.isSubtype_lub_left x w.upper)
  | symbolic v =>
      cases b with
      | ground y =>
          by_cases absorbed : L.isSubtype y v.lower
          · simp only [widen, joinVariable, absorbed, if_true]
            exact Or.inl rfl
          · simp only [widen, joinVariable, absorbed]
            exact Or.inr (laws.isSubtype_lub_right y v.upper)
      | symbolic w => exact Or.inr (laws.isSubtype_lub_left v.upper w.upper)

/-- Equal qualifiers join to themselves, other ones as they settle. -/
theorem join_eq_widen (laws : L.LubLaws) (a b : Qualifier Q)
    : L.hierarchy.join a b = if a = b then a else L.widen (L.settle a) (L.settle b) := by
  cases a with
  | ground x =>
      cases b with
      | ground y =>
          by_cases same : x = y
          · simp [same, hierarchy, laws.idem]
          · simp [same, hierarchy, settle, widen]
      | symbolic w => rfl
  | symbolic v => cases b <;> rfl

/-- A qualifier joined with itself stays as it is, settled or not. -/
theorem join_idem (laws : L.LubLaws) (a : Qualifier Q) : L.hierarchy.join a a = a := by
  simp [laws.join_eq_widen]

/-- The join does not see the order of its sides. -/
theorem join_comm (laws : L.LubLaws) (a b : Qualifier Q)
    : L.hierarchy.join a b = L.hierarchy.join b a := by
  rw [laws.join_eq_widen, laws.join_eq_widen]
  by_cases same : a = b
  · simp [same]
  · simp [same, Ne.symm same, laws.widen_comm]

/-- Different qualifiers join as they settle. -/
theorem join_of_ne (laws : L.LubLaws) {a b : Qualifier Q} (different : a ≠ b)
    : L.hierarchy.join a b = L.hierarchy.join (L.settle a) (L.settle b) := by
  rw [laws.join_eq_widen a b, if_neg different, laws.join_eq_widen, settle_settle,
    settle_settle]
  by_cases same : L.settle a = L.settle b
  · rw [if_pos same, ← same]
    cases settled : L.settle a with
    | ground value => simp [widen, laws.idem]
    | symbolic var =>
        have both := (settle_eq_symbolic settled).trans
          (settle_eq_symbolic (same ▸ settled)).symm
        exact absurd both different
  · rw [if_neg same]

/-- A settled qualifier joins with another one as the latter settles. -/
theorem join_of_settled (laws : L.LubLaws) {a : Qualifier Q} (settled : L.settle a = a)
    (b : Qualifier Q)
    : L.hierarchy.join a b = L.hierarchy.join a (L.settle b) := by
  by_cases same : a = b
  · rw [← same, settled]
  · rw [laws.join_of_ne same, settled]

/-- A concrete value and a free variable join as the variable's bounds tell. -/
theorem join_ground_free (laws : L.LubLaws) {var : Variable Q} (free : var ∈ L.free) (value : Q)
    : L.hierarchy.join (.ground value) (.symbolic var) = L.joinVariable value var := by
  rw [laws.join_eq_widen, if_neg (by simp), settle_of_free free]
  rfl

/-- Different free variables are widened to the join of their upper bounds. -/
theorem join_free_free (laws : L.LubLaws) {low high : Variable Q} (freeLow : low ∈ L.free)
    (freeHigh : high ∈ L.free) (different : low ≠ high)
    : L.hierarchy.join (.symbolic low) (.symbolic high)
      = .ground (L.lub low.upper high.upper) := by
  rw [laws.join_eq_widen, if_neg (by simpa using different), settle_of_free freeLow,
    settle_of_free freeHigh]
  rfl

/-- A least bottom settles what it is joined with. -/
theorem bottom_join (laws : L.LubLaws) (least : ∀ value, L.isSubtype L.bottom value)
    (a : Qualifier Q)
    : L.hierarchy.join (.ground L.bottom) a = L.settle a := by
  rw [laws.join_of_settled rfl]
  cases settled : L.settle a with
  | ground value => exact congrArg Qualifier.ground (of_decide_eq_true (least value))
  | symbolic var =>
      have free := free_of_settle_eq_symbolic settled
      rw [laws.join_ground_free free, joinVariable, if_pos (least var.lower)]

/-- A greatest top absorbs whatever it is joined with. -/
theorem top_join (laws : L.LubLaws) (greatest : ∀ value, L.isSubtype value L.top)
    (a : Qualifier Q)
    : L.hierarchy.join (.ground L.top) a = .ground L.top := by
  have absorbed : ∀ value, L.lub L.top value = L.top := by
    intro value
    rw [laws.comm]
    exact of_decide_eq_true (greatest value)
  rw [laws.join_of_settled rfl]
  cases settled : L.settle a with
  | ground value => exact congrArg Qualifier.ground (absorbed value)
  | symbolic var =>
      have free := free_of_settle_eq_symbolic settled
      have exceeds : ¬L.isSubtype L.top var.lower := by
        intro below
        exact free (laws.isSubtype_trans (greatest var.upper) below)
      rw [laws.join_ground_free free, joinVariable, if_neg exceeds, absorbed]

/-- A join is a variable only when one of its arguments is that variable. -/
theorem join_eq_symbolic (laws : L.LubLaws) {a b : Qualifier Q} {var : Variable Q}
    (joined : L.hierarchy.join a b = .symbolic var)
    : a = .symbolic var ∨ b = .symbolic var := by
  rw [laws.join_eq_widen] at joined
  split at joined
  · exact Or.inl joined
  · exact (widen_eq_symbolic joined).imp settle_eq_symbolic settle_eq_symbolic

/-- The join makes up no variable. -/
theorem over_join (laws : L.LubLaws) {family : Set (Variable Q)} {a b : Qualifier Q}
    (overA : a.Over family) (overB : b.Over family)
    : (L.hierarchy.join a b).Over family := by
  cases joined : L.hierarchy.join a b with
  | ground value => trivial
  | symbolic var =>
      rcases laws.join_eq_symbolic joined with rfl | rfl
      · exact overA
      · exact overB

/-- Settling before or after a join makes no difference. -/
theorem settle_join (laws : L.LubLaws) (a b : Qualifier Q)
    : L.settle (L.hierarchy.join a b) = L.hierarchy.join (L.settle a) (L.settle b) := by
  by_cases same : a = b
  · rw [same, laws.join_idem, laws.join_idem]
  · rw [laws.join_of_ne same]
    cases joined : L.hierarchy.join (L.settle a) (L.settle b) with
    | ground value => rfl
    | symbolic var =>
        rcases laws.join_eq_symbolic joined with settled | settled
        · rw [← settled, settle_settle]
        · rw [← settled, settle_settle]

/-- A join of settled qualifiers is settled. -/
theorem settle_join_settle (laws : L.LubLaws) (a b : Qualifier Q)
    : L.settle (L.hierarchy.join (L.settle a) (L.settle b))
      = L.hierarchy.join (L.settle a) (L.settle b) := by
  rw [laws.settle_join, settle_settle, settle_settle]

/-- Nothing is lost by a join: its first argument lies below it. -/
theorem below_join_left (laws : L.LubLaws) {a : Qualifier Q} (within : a.Over L.ordered)
    (b : Qualifier Q)
    : L.Below a (L.hierarchy.join a b) := by
  rw [laws.join_eq_widen]
  split
  · exact Or.inl rfl
  · have settled : (L.settle a).Over L.ordered := (over_settle within).mono Set.inter_subset_left
    exact laws.below_trans settled (below_settle a) (laws.below_widen_left _ _)

/-- The join lies above its second side. -/
theorem below_join_right (laws : L.LubLaws) (a : Qualifier Q) {b : Qualifier Q}
    (within : b.Over L.ordered)
    : L.Below b (L.hierarchy.join a b) := by
  rw [laws.join_comm]
  exact laws.below_join_left within a

/-- What lies above a concrete value and above a variable lies above their join. -/
theorem joinVariable_below (laws : L.LubLaws) {value : Q} {var : Variable Q}
    {c : Qualifier Q} (first : L.isSubtype value c.lowest) (second : L.Below (.symbolic var) c)
    : L.Below (L.joinVariable value var) c := by
  unfold joinVariable
  split
  · exact second
  · rename_i exceeds
    rcases second with rfl | second
    · exact absurd first exceeds
    · exact Or.inr (laws.lub_isSubtype first second)

/-- What lies above two unstacked qualifiers lies above their join. -/
theorem join_below (laws : L.LubLaws) {family : Set (Variable Q)}
    (unstacked : L.Unstacked family) {a b c : Qualifier Q} (overA : a.Over family)
    (overB : b.Over family) (first : L.Below a c) (second : L.Below b c)
    : L.Below (L.hierarchy.join a b) c := by
  rw [laws.join_eq_widen, settle_of_unstacked unstacked overA,
    settle_of_unstacked unstacked overB]
  by_cases same : a = b
  · rwa [if_pos same]
  rw [if_neg same]
  cases a with
  | ground x =>
      rw [laws.ground_below_iff] at first
      cases b with
      | ground y =>
          rw [laws.ground_below_iff] at second
          exact Or.inr (laws.lub_isSubtype first second)
      | symbolic w => exact laws.joinVariable_below first second
  | symbolic v =>
      cases b with
      | ground y =>
          rw [laws.ground_below_iff] at second
          exact laws.joinVariable_below second first
      | symbolic w =>
          -- neither variable lies below the other one, so both lie below `c` with all values
          rcases first with rfl | first
          · rcases second with equal | second
            · exact absurd equal.symm same
            · exact absurd second (unstacked w overB v overA)
          rcases second with rfl | second
          · exact absurd first (unstacked v overA w overB)
          · exact Or.inr (laws.lub_isSubtype first second)

/-- On unstacked qualifiers the join is associative: both sides lie above the same
qualifiers, and below whatever does. -/
theorem join_assoc_of_unstacked (laws : L.LubLaws) {family : Set (Variable Q)}
    (unstacked : L.Unstacked family) (ordered : family ⊆ L.ordered) {a b c : Qualifier Q}
    (overA : a.Over family) (overB : b.Over family) (overC : c.Over family)
    : L.hierarchy.join (L.hierarchy.join a b) c
      = L.hierarchy.join a (L.hierarchy.join b c) := by
  have overAB := laws.over_join overA overB
  have overBC := laws.over_join overB overC
  have overLeft := laws.over_join overAB overC
  have overRight := laws.over_join overA overBC
  apply laws.below_antisymm unstacked overLeft overRight
  · have belowA := laws.below_join_left (overA.mono ordered) (L.hierarchy.join b c)
    have belowBC := laws.below_join_right a (overBC.mono ordered)
    have belowB := laws.below_trans (overBC.mono ordered)
      (laws.below_join_left (overB.mono ordered) c) belowBC
    have belowC := laws.below_trans (overBC.mono ordered)
      (laws.below_join_right b (overC.mono ordered)) belowBC
    have belowAB := laws.join_below unstacked overA overB belowA belowB
    exact laws.join_below unstacked overAB overC belowAB belowC
  · have belowAB := laws.below_join_left (overAB.mono ordered) c
    have belowC := laws.below_join_right (L.hierarchy.join a b) (overC.mono ordered)
    have belowA := laws.below_trans (overAB.mono ordered)
      (laws.below_join_left (overA.mono ordered) b) belowAB
    have belowB := laws.below_trans (overAB.mono ordered)
      (laws.below_join_right a (overB.mono ordered)) belowAB
    have belowBC := laws.join_below unstacked overB overC belowB belowC
    exact laws.join_below unstacked overA overBC belowA belowBC

section Settling

variable {family : Set (Variable Q)} {a b c : Qualifier Q}

/-- Joining a side again changes nothing. -/
theorem join_join_self (laws : L.LubLaws) (unstacked : L.Unstacked family)
    (ordered : family ⊆ L.ordered) (overA : (L.settle a).Over family)
    (overB : (L.settle b).Over family)
    : L.hierarchy.join a (L.hierarchy.join a b) = L.hierarchy.join a b := by
  by_cases same : a = b
  · rw [same, laws.join_idem, laws.join_idem]
  · calc L.hierarchy.join a (L.hierarchy.join a b)
      _ = L.hierarchy.join (L.hierarchy.join (L.settle a) (L.settle b)) a := by
          rw [laws.join_comm a, laws.join_of_ne same]
      _ = L.hierarchy.join (L.settle a) (L.hierarchy.join (L.settle a) (L.settle b)) := by
          rw [laws.join_of_settled (laws.settle_join_settle a b), laws.join_comm]
      _ = L.hierarchy.join (L.settle a) (L.settle b) := by
          rw [← laws.join_assoc_of_unstacked unstacked ordered overA overA overB,
            laws.join_idem]
      _ = L.hierarchy.join a b := (laws.join_of_ne same).symm

/-- The join is associative on qualifiers that settle to unstacked ones: unless two
neighbours are equal, all three may be settled first. -/
theorem join_assoc (laws : L.LubLaws) (unstacked : L.Unstacked family)
    (ordered : family ⊆ L.ordered) (overA : (L.settle a).Over family)
    (overB : (L.settle b).Over family) (overC : (L.settle c).Over family)
    : L.hierarchy.join (L.hierarchy.join a b) c
      = L.hierarchy.join a (L.hierarchy.join b c) := by
  by_cases ab : a = b
  · subst ab
    rw [laws.join_idem, laws.join_join_self unstacked ordered overA overC]
  by_cases bc : b = c
  · subst bc
    rw [laws.join_idem, laws.join_comm _ b, laws.join_comm a b,
      laws.join_join_self unstacked ordered overB overA]
  rw [laws.join_of_ne ab, laws.join_of_ne bc, laws.join_of_settled (laws.settle_join_settle a b) c,
    laws.join_comm a, laws.join_of_settled (laws.settle_join_settle b c) a,
    laws.join_comm _ (L.settle a)]
  exact laws.join_assoc_of_unstacked unstacked ordered overA overB overC

end Settling

end LubLaws

end GroundLattice

end QualifierBindings
