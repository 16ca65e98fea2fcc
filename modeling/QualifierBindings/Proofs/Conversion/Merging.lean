import QualifierBindings.Proofs.Conversion.Contributions

/-! Merges of bindings. A merge is made parameter by parameter, so it obeys the laws that its
operation obeys. It obeys no others: one bound parameter with an exact range is a copy of the
operation among the bindings.
-/

namespace QualifierBindings

variable {Q : Type} (op : Qualifier Q → Qualifier Q → Qualifier Q)

namespace Range

/-- Exact ranges combine to an exact one. -/
theorem pointwise_exact (a b : Qualifier Q) : pointwise op (exact a) (exact b) = exact (op a b) :=
  rfl

variable {op}

/-- Ranges combine in either order when their bounds do. -/
theorem pointwise_comm (comm : ∀ a b, op a b = op b a) : Std.Commutative (pointwise op) where
  comm a b := by
    simp only [pointwise, combine, comm a.lower, comm a.upper]

/-- Ranges may be regrouped when their bounds may. -/
theorem pointwise_assoc (assoc : ∀ a b c, op (op a b) c = op a (op b c))
    : Std.Associative (pointwise op) where
  assoc a b c := by
    simp only [pointwise, combine, assoc]

/-- A range combined with itself stays when its bounds do. -/
theorem pointwise_idem (idem : ∀ a, op a a = a) : Std.IdempotentOp (pointwise op) where
  idempotent a := by
    simp only [pointwise, combine, idem]

end Range

namespace Bindings

/-- The main parameter bound to exactly one qualifier, and nothing else. -/
def only (qualifier : Qualifier Q) : Bindings Q :=
  .singleton Vocabulary.mainParameter (.exact qualifier)

theorem get?_only (qualifier : Qualifier Q) (name : String)
    : (only qualifier).get? name
      = if name = Vocabulary.mainParameter then some (.exact qualifier) else none := by
  rw [only, NameMap.singleton, NameMap.get?_insert, NameMap.get?_empty]

/-- Bindings of this kind differ when their qualifiers do. -/
theorem only_injective {a b : Qualifier Q} (same : only a = only b) : a = b := by
  have found := congrArg (fun map => NameMap.get? map Vocabulary.mainParameter) same
  simp only [get?_only, if_true, Option.some.injEq] at found
  exact congrArg Range.lower found

/-- Merges of such bindings are applications of the operation. -/
theorem merge_only (a b : Qualifier Q) : merge op (only a) (only b) = only (op a b) := by
  apply NameMap.ext_get?
  intro name
  rw [get?_merge_eq, get?_only, get?_only, get?_only]
  by_cases main : name = Vocabulary.mainParameter
  · simp only [main, if_true, Option.merge_some_some, Range.pointwise_exact]
  · simp only [main, if_false, Option.merge_none_left]

/-- Nothing is merged into a map by the empty one. -/
theorem merge_empty (map : Bindings Q) : merge op map .empty = map :=
  rfl

/-- A map merged into the empty one is taken as it is, name by name. -/
theorem empty_merge (map : Bindings Q) : merge op .empty map = map := by
  apply NameMap.ext_get?
  intro name
  rw [get?_merge_eq, NameMap.get?_empty, Option.merge_none_left]

/-- Merges do not see the order of the two sides exactly when the operation does not. -/
theorem merge_comm_iff
    : (∀ left right : Bindings Q, merge op left right = merge op right left)
      ↔ ∀ a b, op a b = op b a := by
  constructor
  · intro comm a b
    have swapped := comm (only a) (only b)
    rw [merge_only, merge_only] at swapped
    exact only_injective swapped
  · intro comm left right
    have := Range.pointwise_comm comm
    apply NameMap.ext_get?
    intro name
    rw [get?_merge_eq, get?_merge_eq]
    exact Std.Commutative.comm _ _

/-- Merges may be regrouped exactly when the operation may. -/
theorem merge_assoc_iff
    : (∀ first second third : Bindings Q,
          merge op (merge op first second) third = merge op first (merge op second third))
      ↔ ∀ a b c, op (op a b) c = op a (op b c) := by
  constructor
  · intro assoc a b c
    have regrouped := assoc (only a) (only b) (only c)
    simp only [merge_only] at regrouped
    exact only_injective regrouped
  · intro assoc first second third
    have := Range.pointwise_assoc assoc
    apply NameMap.ext_get?
    intro name
    simp only [get?_merge_eq]
    exact Std.Associative.assoc _ _ _

/-- A map merged into itself stays exactly when every qualifier does so. -/
theorem merge_idem_iff : (∀ map : Bindings Q, merge op map map = map) ↔ ∀ a, op a a = a := by
  constructor
  · intro idem a
    have repeated := idem (only a)
    rw [merge_only] at repeated
    exact only_injective repeated
  · intro idem map
    have := Range.pointwise_idem idem
    apply NameMap.ext_get?
    intro name
    rw [get?_merge_eq]
    exact Std.IdempotentOp.idempotent _

/-- A merge binds the parameters of both sides: one bound on a single side keeps its range, one
bound on both gets the combination of its ranges, the older one as first argument. Nothing is
changed by the empty bindings, and a merge is commutative, associative or idempotent exactly when
the operation is. -/
theorem merge_pointwise_lawful
    : (∀ old new : Bindings Q,
        (merge op old new).nameSet = old.nameSet ∪ new.nameSet
        ∧ ∀ name,
            (merge op old new).get? name
              = match old.get? name, new.get? name with
                | some before, some added => some (before.combine op op added)
                | some before, none => some before
                | none, added => added)
      ∧ (∀ map : Bindings Q, merge op map .empty = map ∧ merge op .empty map = map)
      ∧ ((∀ left right : Bindings Q, merge op left right = merge op right left)
          ↔ ∀ a b, op a b = op b a)
      ∧ ((∀ first second third : Bindings Q,
            merge op (merge op first second) third = merge op first (merge op second third))
          ↔ ∀ a b c, op (op a b) c = op a (op b c))
      ∧ ((∀ map : Bindings Q, merge op map map = map) ↔ ∀ a, op a a = a) := by
  refine ⟨?_, ?_, merge_comm_iff op, merge_assoc_iff op, merge_idem_iff op⟩
  · intro old new
    refine ⟨nameSet_merge op old new, ?_⟩
    intro name
    rw [get?_merge_eq]
    cases old.get? name <;> cases new.get? name <;> rfl
  · intro map
    exact ⟨merge_empty op map, empty_merge op map⟩

end Bindings

end QualifierBindings
