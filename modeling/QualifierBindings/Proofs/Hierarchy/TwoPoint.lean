import QualifierBindings.Proofs.Hierarchy.Widening

/-! Joins of qualifiers over a lattice of two values. There a variable either ranges over the
whole lattice or settles to one value, and of two free variables none lies below the other one.
So the laws of the widening join hold of all qualifiers, whatever the bounds of their variables
are.
-/

namespace QualifierBindings

variable {Q : Type}

/-- The laws that make a join of qualifiers independent of order and repetition. -/
structure Hierarchy.JoinLaws (H : Hierarchy Q) : Prop where
  comm : ∀ a b, H.join a b = H.join b a
  assoc : ∀ a b c, H.join (H.join a b) c = H.join a (H.join b c)
  idem : ∀ a, H.join a a = a

namespace GroundLattice

/-- A lattice of two values, bottom below top. -/
structure TwoPoint (L : GroundLattice Q) : Prop where
  distinct : L.bottom ≠ L.top
  covered : ∀ value, value = L.bottom ∨ value = L.top
  bottom_lub : ∀ value, L.lub L.bottom value = value
  lub_bottom : ∀ value, L.lub value L.bottom = value
  top_lub_top : L.lub L.top L.top = L.top

/-- The tainting lattice has its two taints only. -/
theorem twoPoint_tainting : tainting.TwoPoint where
  distinct := by decide
  covered := by rintro (_ | _) <;> decide
  bottom_lub := by rintro (_ | _) <;> decide
  lub_bottom := by rintro (_ | _) <;> decide
  top_lub_top := by decide

/-- So has the inverted one. -/
theorem twoPoint_inverted : inverted.TwoPoint where
  distinct := by decide
  covered := by rintro (_ | _) <;> decide
  bottom_lub := by rintro (_ | _) <;> decide
  lub_bottom := by rintro (_ | _) <;> decide
  top_lub_top := by decide

/-- The qualifiers that settling leaves over a lattice of two values. -/
inductive Settled (L : GroundLattice Q) : Qualifier Q → Prop where
  | bottom : Settled L (.ground L.bottom)
  | top : Settled L (.ground L.top)
  | free (name : String) : Settled L (.named name L.bottom L.top)

namespace TwoPoint

variable {L : GroundLattice Q}

/-- A lattice of two values is lawful. -/
theorem lubLaws (two : L.TwoPoint) : L.LubLaws where
  comm a b := by
    rcases two.covered a with rfl | rfl
    · rw [two.bottom_lub, two.lub_bottom]
    · rcases two.covered b with rfl | rfl
      · rw [two.bottom_lub, two.lub_bottom]
      · rfl
  assoc a b c := by
    rcases two.covered a with rfl | rfl
    · rw [two.bottom_lub, two.bottom_lub]
    · rcases two.covered b with rfl | rfl
      · rw [two.lub_bottom, two.bottom_lub]
      · rcases two.covered c with rfl | rfl
        · rw [two.lub_bottom, two.lub_bottom]
        · rw [two.top_lub_top]
  idem a := by
    rcases two.covered a with rfl | rfl
    · exact two.bottom_lub _
    · exact two.top_lub_top

variable [DecidableEq Q]

/-- Its bottom lies below both. -/
theorem least (two : L.TwoPoint) (value : Q) : L.isSubtype L.bottom value :=
  decide_eq_true (two.bottom_lub value)

/-- Its top lies above both. -/
theorem greatest (two : L.TwoPoint) (value : Q) : L.isSubtype value L.top := by
  rcases two.covered value with rfl | rfl
  · exact two.least _
  · exact two.lubLaws.isSubtype_refl _

/-- Its top does not lie below its bottom. -/
theorem not_top_isSubtype_bottom (two : L.TwoPoint) : ¬L.isSubtype L.top L.bottom := by
  intro below
  exact two.distinct (two.lubLaws.isSubtype_antisymm (two.least _) below)

/-- Only the variable between bottom and top is not pinned. -/
theorem bounds_of_free (two : L.TwoPoint) {var : Variable Q} (free : var ∈ L.free)
    : var.lower = L.bottom ∧ var.upper = L.top := by
  refine ⟨(two.covered var.lower).resolve_right ?_, (two.covered var.upper).resolve_left ?_⟩
  · intro top
    exact free (top ▸ two.greatest var.upper)
  · intro bottom
    exact free (bottom ▸ two.least var.lower)

/-- Its free variables have their bounds in order. -/
theorem free_subset_ordered (two : L.TwoPoint) : L.free ⊆ L.ordered := by
  intro var free
  change L.isSubtype var.lower var.upper = true
  rw [(two.bounds_of_free free).1]
  exact two.least var.upper

/-- No free variable lies below another one, since all reach from bottom to top. -/
theorem unstacked_free (two : L.TwoPoint) : L.Unstacked L.free := by
  intro low freeLow high freeHigh
  rw [(two.bounds_of_free freeLow).2, (two.bounds_of_free freeHigh).1]
  exact two.not_top_isSubtype_bottom

/-- A variable from bottom to top is free. -/
theorem free_named (two : L.TwoPoint) (name : String)
    : (⟨name, L.bottom, L.top⟩ : Variable Q) ∈ L.free :=
  two.not_top_isSubtype_bottom

/-- Settling changes nothing that is settled. -/
theorem settle_of_settled (two : L.TwoPoint) {qualifier : Qualifier Q}
    (settled : Settled L qualifier)
    : L.settle qualifier = qualifier := by
  cases settled with
  | bottom | top => rfl
  | free name => exact settle_of_free (two.free_named name)

/-- The bottom changes no settled qualifier. -/
theorem bottom_join (two : L.TwoPoint) {qualifier : Qualifier Q}
    (settled : Settled L qualifier)
    : L.hierarchy.join (.ground L.bottom) qualifier = qualifier := by
  rw [two.lubLaws.bottom_join two.least, two.settle_of_settled settled]

/-- The top absorbs every qualifier. -/
theorem top_join (two : L.TwoPoint) (qualifier : Qualifier Q)
    : L.hierarchy.join (.ground L.top) qualifier = .ground L.top :=
  two.lubLaws.top_join two.greatest qualifier

/-- Two free variables of different names meet in the top. -/
theorem free_join_free (two : L.TwoPoint) {left right : String} (different : left ≠ right)
    : L.hierarchy.join (.named left L.bottom L.top) (.named right L.bottom L.top)
      = .ground L.top := by
  have widened := two.lubLaws.join_free_free (two.free_named left) (two.free_named right)
    (by simpa using different)
  exact widened.trans (congrArg Qualifier.ground two.top_lub_top)

/-- The join is associative: all qualifiers settle to unstacked ones. -/
theorem join_assoc (two : L.TwoPoint) (a b c : Qualifier Q)
    : L.hierarchy.join (L.hierarchy.join a b) c
      = L.hierarchy.join a (L.hierarchy.join b c) := by
  have settles (qualifier : Qualifier Q) : (L.settle qualifier).Over L.free := by
    have all : qualifier.Over Set.univ := by
      cases qualifier <;> trivial
    exact (over_settle all).mono Set.inter_subset_right
  exact two.lubLaws.join_assoc two.unstacked_free two.free_subset_ordered (settles a) (settles b)
    (settles c)

/-- Over a lattice of two values the widening join obeys all laws, whatever the bounds of
the variables are. -/
theorem joinLaws (two : L.TwoPoint) : L.hierarchy.JoinLaws where
  comm := two.lubLaws.join_comm
  assoc := two.join_assoc
  idem := two.lubLaws.join_idem

end TwoPoint

/-- Over both tainting lattices, and whatever the bounds of the variables are, the join is
commutative, associative and idempotent; bottom is neutral to concrete values and free
variables, top absorbs everything, and it makes no difference whether qualifiers are settled
before or after they are joined. -/
theorem joinLaws_tainting_inverted
    : ∀ L ∈ [tainting, inverted],
        L.hierarchy.JoinLaws
        ∧ (∀ value,
            L.hierarchy.join (.ground L.bottom) (.ground value) = .ground value
            ∧ L.hierarchy.join (.ground value) (.ground L.bottom) = .ground value)
        ∧ (∀ name,
            L.hierarchy.join (.ground L.bottom) (.named name L.bottom L.top)
                = .named name L.bottom L.top
            ∧ L.hierarchy.join (.named name L.bottom L.top) (.ground L.bottom)
                = .named name L.bottom L.top)
        ∧ (∀ a,
            L.hierarchy.join (.ground L.top) a = .ground L.top
            ∧ L.hierarchy.join a (.ground L.top) = .ground L.top)
        ∧ ∀ a b,
            L.settle (L.hierarchy.join a b) = L.hierarchy.join (L.settle a) (L.settle b) := by
  intro L member
  have two : L.TwoPoint := by
    simp only [List.mem_cons, List.not_mem_nil, or_false] at member
    rcases member with rfl | rfl
    · exact twoPoint_tainting
    · exact twoPoint_inverted
  refine ⟨two.joinLaws, ?_, ?_, ?_, two.lubLaws.settle_join⟩
  · intro value
    exact ⟨congrArg Qualifier.ground (two.bottom_lub value),
      congrArg Qualifier.ground (two.lub_bottom value)⟩
  · intro name
    have neutral := two.bottom_join (.free name)
    exact ⟨neutral, (two.lubLaws.join_comm _ _).trans neutral⟩
  · intro a
    have absorbed := two.top_join a
    exact ⟨absorbed, (two.lubLaws.join_comm _ _).trans absorbed⟩

/-- A variable whose lower bound lies above its upper one is joined with a free variable, before
and after it is joined with itself. -/
theorem joinLaws_tainting_inverted_reversed
    : inverted ∈ [tainting, inverted]
      ∧ inverted.hierarchy.join
            (inverted.hierarchy.join (.named "r" .untainted .tainted)
              (.named "r" .untainted .tainted))
            (.named "v" .tainted .untainted)
        = inverted.hierarchy.join (.named "r" .untainted .tainted)
            (inverted.hierarchy.join (.named "r" .untainted .tainted)
              (.named "v" .tainted .untainted)) := by
  have member : inverted ∈ [tainting, inverted] := by simp
  exact ⟨member, (joinLaws_tainting_inverted inverted member).1.assoc _ _ _⟩

end GroundLattice

end QualifierBindings
