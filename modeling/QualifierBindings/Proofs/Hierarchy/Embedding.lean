import Mathlib.Logic.Function.Basic
import QualifierBindings.Range
import QualifierBindings.Taint

/-! Translations from one lattice into another one, and from variable names to others. A
translation that keeps bottom, top and joins, and tells values and names apart, passes through
settling and widening, so the join of translated qualifiers is the translated join. Telling
values and names apart is needed since the widening join asks whether two qualifiers are equal.
Exchanging the two taints translates the tainting lattice into the inverted one; renaming
variables translates any lattice into itself.
-/

namespace QualifierBindings

variable {Q R : Type} {f : Q → R} {label : String → String}

/-- A variable with its bounds and its name translated. -/
def Variable.translate (f : Q → R) (label : String → String) (var : Variable Q) : Variable R :=
  { name := label var.name, lower := f var.lower, upper := f var.upper }

/-- Translated variables are equal only when the variables are, bound by bound and name by name. -/
theorem Variable.translate_injective (injective : Function.Injective f)
    (distinct : Function.Injective label)
    : Function.Injective (Variable.translate f label) := by
  rintro ⟨name, lower, upper⟩ ⟨other, otherLower, otherUpper⟩ same
  simp only [Variable.translate, Variable.mk.injEq, injective.eq_iff, distinct.eq_iff] at same
  simpa only [Variable.mk.injEq] using same

namespace Qualifier

/-- A qualifier with its lattice values, and the name of its variable, translated. -/
def translate (f : Q → R) (label : String → String) : Qualifier Q → Qualifier R
  | .ground value => .ground (f value)
  | .symbolic var => .symbolic (var.translate f label)

/-- Without new names, translating a qualifier is mapping its values. -/
@[simp] theorem translate_id (f : Q → R) (qualifier : Qualifier Q)
    : qualifier.translate f id = qualifier.map f := by
  cases qualifier <;> rfl

/-- Nothing changes when each value is mapped to itself. -/
@[simp] theorem map_id (qualifier : Qualifier Q) : qualifier.map id = qualifier := by
  cases qualifier <;> rfl

/-- Translated qualifiers are equal only when the qualifiers are: values stay values, and variables
stay variables. -/
theorem translate_injective (injective : Function.Injective f)
    (distinct : Function.Injective label)
    : Function.Injective (Qualifier.translate f label) := by
  rintro (value | var) (other | otherVar) same
  · exact congrArg ground (injective (ground.inj same))
  · contradiction
  · contradiction
  · exact congrArg symbolic (Variable.translate_injective injective distinct (symbolic.inj same))

/-- The lowest value is translated with the qualifier. -/
@[simp] theorem lowest_map (f : Q → R) (qualifier : Qualifier Q)
    : (qualifier.map f).lowest = f qualifier.lowest := by
  cases qualifier <;> rfl

/-- The highest value is translated with the qualifier. -/
@[simp] theorem highest_map (f : Q → R) (qualifier : Qualifier Q)
    : (qualifier.map f).highest = f qualifier.highest := by
  cases qualifier <;> rfl

end Qualifier

/-- A range with both bounds translated. -/
def Range.translate (f : Q → R) (label : String → String) (range : Range Q) : Range R :=
  { lower := range.lower.translate f label, upper := range.upper.translate f label }

/-- Without new names, translating a range is mapping its values. -/
@[simp] theorem Range.translate_id (f : Q → R) (range : Range Q)
    : range.translate f id = range.map f := by
  simp [Range.translate, Range.map]

/-- A range stays as it is when each value is mapped to itself. -/
@[simp] theorem Range.map_id (range : Range Q) : range.map id = range := by
  simp [Range.map]

/-- A translation of lattice values that keeps the extreme values and all joins, and tells
values apart. -/
structure GroundLattice.Embeds (L : GroundLattice Q) (M : GroundLattice R) (f : Q → R)
    : Prop where
  injective : Function.Injective f
  bottom : f L.bottom = M.bottom
  top : f L.top = M.top
  lub : ∀ a b, f (L.lub a b) = M.lub (f a) (f b)

/-- A translation that the symbolic rules respect as well. -/
structure Hierarchy.Embeds (H : Hierarchy Q) (K : Hierarchy R) (f : Q → R) : Prop where
  ground : H.toGroundLattice.Embeds K.toGroundLattice f
  join : ∀ a b, (H.join a b).map f = K.join (a.map f) (b.map f)

/-- A translation of values and of variable names under which the ranges of two hierarchies
correspond: the extreme values do, and so do all joins of qualifiers. -/
structure Hierarchy.Translates (H : Hierarchy Q) (K : Hierarchy R) (f : Q → R)
    (label : String → String) : Prop where
  bottom : f H.bottom = K.bottom
  top : f H.top = K.top
  join : ∀ a b, (H.join a b).translate f label = K.join (a.translate f label) (b.translate f label)

namespace Hierarchy

/-- What embeds one hierarchy in another one translates it with the names as they are. -/
theorem Embeds.translates {H : Hierarchy Q} {K : Hierarchy R} (embeds : H.Embeds K f)
    : H.Translates K f id where
  bottom := embeds.ground.bottom
  top := embeds.ground.top
  join a b := by simp only [Qualifier.translate_id, embeds.join]

/-- Any hierarchy corresponds to itself. -/
theorem translates_self (H : Hierarchy Q) : H.Translates H id id where
  bottom := rfl
  top := rfl
  join a b := by simp only [Qualifier.translate_id, Qualifier.map_id]

end Hierarchy

namespace GroundLattice

/-- Every lattice embeds in itself. -/
theorem embeds_self (L : GroundLattice Q) : L.Embeds L id where
  injective := Function.injective_id
  bottom := rfl
  top := rfl
  lub _ _ := rfl

namespace Embeds

variable [DecidableEq Q] [DecidableEq R] {L : GroundLattice Q} {M : GroundLattice R}

/-- The order is kept in both directions, since it is made of joins and equality. -/
theorem isSubtype_map (embeds : L.Embeds M f) (a b : Q)
    : M.isSubtype (f a) (f b) = L.isSubtype a b := by
  simp only [isSubtype, ← embeds.lub, embeds.injective.eq_iff]

/-- Settling asks for the order of the bounds alone, so it commutes with a translation. -/
theorem settle_translate (embeds : L.Embeds M f) (qualifier : Qualifier Q)
    : M.settle (qualifier.translate f label) = (L.settle qualifier).translate f label := by
  cases qualifier with
  | ground value => rfl
  | symbolic var =>
      have pinned
          : M.isSubtype (var.translate f label).upper (var.translate f label).lower
            = L.isSubtype var.upper var.lower :=
        embeds.isSubtype_map var.upper var.lower
      simp only [Qualifier.translate, settle, pinned]
      split <;> rfl

/-- A value and a variable join alike on both sides, by the order of the value and the lower bound.
-/
theorem joinVariable_translate (embeds : L.Embeds M f) (value : Q) (var : Variable Q)
    : M.joinVariable (f value) (var.translate f label)
      = (L.joinVariable value var).translate f label := by
  have absorbed : M.isSubtype (f value) (var.translate f label).lower
      = L.isSubtype value var.lower :=
    embeds.isSubtype_map value var.lower
  unfold joinVariable
  rw [absorbed]
  split
  · rfl
  · exact congrArg Qualifier.ground (embeds.lub value var.upper).symm

/-- Widening two qualifiers commutes with a translation, by cases on both. -/
theorem widen_translate (embeds : L.Embeds M f) (a b : Qualifier Q)
    : M.widen (a.translate f label) (b.translate f label) = (L.widen a b).translate f label := by
  cases a with
  | ground value =>
      cases b with
      | ground other => exact congrArg Qualifier.ground (embeds.lub value other).symm
      | symbolic var => exact embeds.joinVariable_translate value var
  | symbolic var =>
      cases b with
      | ground value => exact embeds.joinVariable_translate value var
      | symbolic other => exact congrArg Qualifier.ground (embeds.lub var.upper other.upper).symm

/-- The widening rule commutes with a translation; the case of equal qualifiers needs distinct
names. -/
theorem widenSymbolic_translate (embeds : L.Embeds M f) (distinct : Function.Injective label)
    (a b : Qualifier Q)
    : M.widenSymbolic (a.translate f label) (b.translate f label)
      = (L.widenSymbolic a b).translate f label := by
  unfold widenSymbolic
  by_cases same : a = b
  · rw [if_pos same, if_pos (congrArg (Qualifier.translate f label) same)]
  · have different : a.translate f label ≠ b.translate f label := fun equal =>
      same (Qualifier.translate_injective embeds.injective distinct equal)
    rw [if_neg same, if_neg different, embeds.settle_translate, embeds.settle_translate,
      embeds.widen_translate]

/-- The join of translated qualifiers is the translated join, by cases on the first one. -/
theorem join_translate (embeds : L.Embeds M f) (distinct : Function.Injective label)
    (a b : Qualifier Q)
    : (L.hierarchy.join a b).translate f label
      = M.hierarchy.join (a.translate f label) (b.translate f label) := by
  have symbolic := embeds.widenSymbolic_translate distinct
  cases a with
  | ground value =>
      cases b with
      | ground other => exact congrArg Qualifier.ground (embeds.lub value other)
      | symbolic var => exact (symbolic (.ground value) (.symbolic var)).symm
  | symbolic var =>
      rw [Hierarchy.join_symbolic_left]
      exact (symbolic (.symbolic var) b).symm.trans
        (Hierarchy.join_symbolic_left M.hierarchy (var.translate f label)
          (b.translate f label)).symm

/-- The widening joins respect every translation of the lattices. -/
theorem hierarchy (embeds : L.Embeds M f) : L.hierarchy.Embeds M.hierarchy f where
  ground := embeds
  join a b := by simpa only [Qualifier.translate_id]
    using embeds.join_translate Function.injective_id a b

/-- Widening takes variables of new names as it takes the old ones. -/
theorem translates (embeds : L.Embeds M f) (distinct : Function.Injective label)
    : L.hierarchy.Translates M.hierarchy f label where
  bottom := embeds.bottom
  top := embeds.top
  join := embeds.join_translate distinct

/-- Ranges stay well formed, and ill-formed ones stay so. -/
theorem isWellFormed_map (embeds : L.Embeds M f) (range : Range Q)
    : (range.map f).isWellFormed M = range.isWellFormed L := by
  simp only [Range.isWellFormed, Range.map, Qualifier.lowest_map, Qualifier.highest_map,
    embeds.isSubtype_map]

end Embeds

/-- Exchanging the taints turns the tainting lattice upside down. -/
theorem embeds_swap_tainting : tainting.Embeds inverted Taint.swap where
  injective := by rintro (_ | _) (_ | _) same <;> first | rfl | contradiction
  bottom := rfl
  top := rfl
  lub := by rintro (_ | _) (_ | _) <;> rfl

/-- Exchanging the taints once more turns it back. -/
theorem embeds_swap_inverted : inverted.Embeds tainting Taint.swap where
  injective := embeds_swap_tainting.injective
  bottom := rfl
  top := rfl
  lub := by rintro (_ | _) (_ | _) <;> rfl

end GroundLattice

end QualifierBindings
