import Mathlib.Order.Lattice
import QualifierBindings.Taint

/-! The order that a lawful lattice puts on its values, and the one that follows from it for
qualifiers with variables: a qualifier lies below another one when whatever the one stands for
lies below whatever the other one stands for. The latter is an order only on variables that
range over more than one value and do not lie wholly below each other.
-/

namespace QualifierBindings

variable {Q : Type}

/-- Qualifiers whose variable, if any, is one of the given variables. -/
def Qualifier.Over (family : Set (Variable Q)) : Qualifier Q → Prop
  | .ground _ => True
  | .symbolic var => var ∈ family

/-- A qualifier over some variables is one over any more of them. -/
theorem Qualifier.Over.mono {family others : Set (Variable Q)} {qualifier : Qualifier Q}
    (within : qualifier.Over family) (among : family ⊆ others)
    : qualifier.Over others := by
  cases qualifier with
  | ground value => trivial
  | symbolic var => exact among within

namespace GroundLattice

/-- The laws that make the join of concrete values a least upper bound. -/
structure LubLaws (L : GroundLattice Q) : Prop where
  comm : ∀ a b, L.lub a b = L.lub b a
  assoc : ∀ a b c, L.lub (L.lub a b) c = L.lub a (L.lub b c)
  idem : ∀ a, L.lub a a = a

/-- Sets of bits are joined lawfully. -/
theorem lubLaws_bits : bits.LubLaws where
  comm := UInt8.or_comm
  assoc := UInt8.or_assoc
  idem _ := UInt8.or_self

/-- A lawful lattice is a semilattice, ordered by `isSubtype`. -/
abbrev LubLaws.semilattice {L : GroundLattice Q} (laws : L.LubLaws) : SemilatticeSup Q :=
  letI : Max Q := ⟨L.lub⟩
  SemilatticeSup.mk' laws.comm laws.assoc laws.idem

variable [DecidableEq Q]

/-- The variables whose bounds are in order. -/
def ordered (L : GroundLattice Q) : Set (Variable Q) :=
  { var | L.isSubtype var.lower var.upper }

/-- The variables that settling keeps. -/
def free (L : GroundLattice Q) : Set (Variable Q) :=
  { var | ¬L.isSubtype var.upper var.lower }

/-- No variable lies, with all its values, below another one or below itself. -/
def Unstacked (L : GroundLattice Q) (family : Set (Variable Q)) : Prop :=
  ∀ low ∈ family, ∀ high ∈ family, ¬L.isSubtype low.upper high.lower

/-- Equal qualifiers, or such that all values of the first lie below all of the second. -/
def Below (L : GroundLattice Q) (a b : Qualifier Q) : Prop :=
  a = b ∨ L.isSubtype a.highest b.lowest

namespace LubLaws

variable {L : GroundLattice Q}

/-- The computed order is that of the semilattice. -/
theorem isSubtype_iff_le (laws : L.LubLaws) {a b : Q}
    : L.isSubtype a b = true ↔ laws.semilattice.le a b :=
  decide_eq_true_iff

/-- Every value lies below itself, by idempotence. -/
theorem isSubtype_refl (laws : L.LubLaws) (a : Q) : L.isSubtype a a :=
  decide_eq_true (laws.idem a)

/-- The order is transitive, by that of the semilattice. -/
theorem isSubtype_trans (laws : L.LubLaws) {a b c : Q} (first : L.isSubtype a b)
    (second : L.isSubtype b c)
    : L.isSubtype a c := by
  let := laws.semilattice
  rw [laws.isSubtype_iff_le] at first second ⊢
  exact le_trans first second

/-- Values that lie below each other are equal. -/
theorem isSubtype_antisymm (laws : L.LubLaws) {a b : Q} (first : L.isSubtype a b)
    (second : L.isSubtype b a)
    : a = b := by
  let := laws.semilattice
  rw [laws.isSubtype_iff_le] at first second
  exact le_antisymm first second

/-- A join lies above its first value. -/
theorem isSubtype_lub_left (laws : L.LubLaws) (a b : Q) : L.isSubtype a (L.lub a b) := by
  let := laws.semilattice
  rw [laws.isSubtype_iff_le]
  exact le_sup_left

/-- A join lies above its second value. -/
theorem isSubtype_lub_right (laws : L.LubLaws) (a b : Q) : L.isSubtype b (L.lub a b) := by
  let := laws.semilattice
  rw [laws.isSubtype_iff_le]
  exact le_sup_right

/-- A join lies below all that both values lie below. -/
theorem lub_isSubtype (laws : L.LubLaws) {a b c : Q} (first : L.isSubtype a c)
    (second : L.isSubtype b c)
    : L.isSubtype (L.lub a b) c := by
  let := laws.semilattice
  rw [laws.isSubtype_iff_le] at first second ⊢
  exact sup_le first second

/-- A qualifier over variables with ordered bounds reaches from below to above. -/
theorem lowest_isSubtype_highest (laws : L.LubLaws) {qualifier : Qualifier Q}
    (within : qualifier.Over L.ordered)
    : L.isSubtype qualifier.lowest qualifier.highest := by
  cases qualifier with
  | ground value => exact laws.isSubtype_refl value
  | symbolic var => exact within

/-- Lying below is transitive through qualifiers whose bounds are in order. -/
theorem below_trans (laws : L.LubLaws) {a b c : Qualifier Q} (within : b.Over L.ordered)
    (first : L.Below a b) (second : L.Below b c)
    : L.Below a c := by
  rcases first with rfl | first
  · exact second
  rcases second with rfl | second
  · exact Or.inr first
  · have middle := laws.lowest_isSubtype_highest within
    exact Or.inr (laws.isSubtype_trans first (laws.isSubtype_trans middle second))

/-- A concrete value lies below a qualifier exactly when it lies below its lowest value. -/
theorem ground_below_iff (laws : L.LubLaws) {value : Q} {qualifier : Qualifier Q}
    : L.Below (.ground value) qualifier ↔ L.isSubtype value qualifier.lowest := by
  constructor
  · rintro (rfl | below)
    · exact laws.isSubtype_refl value
    · exact below
  · exact Or.inr

/-- Unstacked qualifiers that lie below each other are equal. -/
theorem below_antisymm (laws : L.LubLaws) {family : Set (Variable Q)}
    (unstacked : L.Unstacked family) {a b : Qualifier Q} (overA : a.Over family)
    (overB : b.Over family) (first : L.Below a b) (second : L.Below b a)
    : a = b := by
  rcases first with equal | first
  · exact equal
  rcases second with equal | second
  · exact equal.symm
  cases a with
  | ground x =>
      cases b with
      | ground y => exact congrArg Qualifier.ground (laws.isSubtype_antisymm first second)
      -- around a concrete value a variable would be pinned to it
      | symbolic w => exact absurd (laws.isSubtype_trans second first) (unstacked w overB w overB)
  | symbolic v =>
      cases b with
      | ground y => exact absurd (laws.isSubtype_trans first second) (unstacked v overA v overA)
      | symbolic w => exact absurd first (unstacked v overA w overB)

end LubLaws

end GroundLattice

end QualifierBindings
