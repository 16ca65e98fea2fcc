import QualifierBindings.Encoding.Qualifier
import QualifierBindings.Proofs.Encoding.Lossless

/-! Bindings are stored without loss, with the ranges, qualifiers and variables in them. The
stored form is a record with a member for each parameter.
-/

namespace QualifierBindings

open Stored

/-- The two taints are stored under different names. -/
theorem Taint.lossless : Lossless Taint := by
  intro taint
  cases taint <;> rfl

/-- A variable is displayed by its name alone, which can be that of a value. -/
theorem Bindings.text_named_eq_text_ground {Q : Type} [ToString Q] (parameter : String)
    (value lower upper : Q)
    : text (.singleton parameter (.exact (.named (toString value) lower upper)))
        = text (.singleton parameter (.ground value))
      ∧ (.singleton parameter (.exact (.named (toString value) lower upper)) : Bindings Q)
        ≠ .singleton parameter (.ground value) := by
  refine ⟨rfl, fun same => ?_⟩
  have ranges := congrArg (fun bindings => bindings.get? parameter) same
  simp [NameMap.singleton, Range.ground, Range.exact, Qualifier.named] at ranges

section Lattice

variable {Q : Type} [Stored Q]

/-- A variable is read back when its bounds are. -/
theorem Variable.lossless (values : Lossless Q) : Lossless (Variable Q) := by
  intro var
  change decode (encode var) = .ok var
  simp only [encode, decode, List.foldlM, readMember, values var.lower, values var.upper]
  rfl

/-- Values and variables are told apart by their tags, also where they are displayed alike. -/
theorem Qualifier.lossless (values : Lossless Q) : Lossless (Qualifier Q) := by
  intro qualifier
  cases qualifier with
  | ground value =>
      change (Stored.decode (Stored.encode value)).map Qualifier.ground = _
      rw [values value]
      rfl
  | symbolic var =>
      change (Variable.decode var.encode).map Qualifier.symbolic = _
      rw [show Variable.decode var.encode = .ok var from Variable.lossless values var]
      rfl

/-- A range is read back by its two bounds. -/
theorem Range.lossless (values : Lossless Q) : Lossless (Range Q) := by
  intro range
  have bound (qualifier : Qualifier Q) : Qualifier.decode qualifier.encode = .ok qualifier :=
    Qualifier.lossless values qualifier
  change decode (encode range) = .ok range
  simp only [encode, decode, List.foldlM, readMember, bound]
  rfl

namespace Bindings

/-- Bindings are read back name by name. -/
theorem lossless (values : Lossless Q) : Lossless (Bindings Q) :=
  Data.asNameMap_mapValues (Range.lossless values)

/-- The stored form has a member for each parameter, in the order of the names. -/
theorem encode_eq (bindings : Bindings Q)
    : (∃ members, encode bindings = .record members ∧ members.map Prod.fst = bindings.names)
      ∧ ∀ name, (encode bindings).member? name = (bindings.get? name).map Range.encode := by
  refine ⟨⟨_, rfl, ?_⟩, fun name => ?_⟩
  · rw [List.map_map]
    rfl
  · exact Entries.get?_mapValues Range.encode name bindings.entries

end Bindings

end Lattice

namespace Stored

open Bindings in
/-- Bindings of taints, and all that they are made of, are kept when they are stored: the same
parameters in the same ascending order, with the same ranges. Bindings that differ are stored
differently, also where they are displayed alike. -/
theorem kept_bindings
    : (Kept Taint ∧ Kept (Variable Taint) ∧ Kept (Qualifier Taint) ∧ Kept (Range Taint)
        ∧ Kept (Bindings Taint))
      ∧ (∀ bindings : Bindings Taint,
          (∃ again : Bindings Taint,
              decode (encode bindings) = .ok again
              ∧ again.names = bindings.names
              ∧ (∀ name, again.get? name = bindings.get? name)
              ∧ text again = text bindings)
          ∧ bindings.names.Pairwise (· < ·)
          ∧ (∃ members, encode bindings = .record members ∧ members.map Prod.fst = bindings.names)
          ∧ ∀ name, (encode bindings).member? name = (bindings.get? name).map encode)
      ∧ ∀ (parameter : String) (taint lower upper : Taint),
          text (.singleton parameter (.exact (.named taint.text lower upper)))
              = text (.singleton parameter (.ground taint))
            ∧ encode
                (.singleton parameter (.exact (.named taint.text lower upper)) : Bindings Taint)
              ≠ encode (.singleton parameter (.ground taint) : Bindings Taint) := by
  have values : Lossless Taint := Taint.lossless
  have bindingsKept : Kept (Bindings Taint) := (Bindings.lossless values).kept
  refine ⟨⟨values.kept, (Variable.lossless values).kept, (Qualifier.lossless values).kept,
    (Range.lossless values).kept, bindingsKept⟩, ?_, ?_⟩
  · intro bindings
    refine ⟨⟨bindings, bindingsKept.lossless bindings, rfl, fun _ => rfl, rfl⟩, ?_,
      encode_eq bindings⟩
    exact List.pairwise_map.mpr bindings.ascending
  · intro parameter taint lower upper
    obtain ⟨alike, different⟩ := text_named_eq_text_ground parameter taint lower upper
    exact ⟨alike, bindingsKept.encode_injective.ne different⟩

/-- Two parameters, one of which is bound to a variable from above. -/
example
    : (let fromAbove : Range Taint := ⟨.ground .untainted, .named "v" .untainted .tainted⟩
       let bindings : Bindings Taint := .ofList [("X", fromAbove), ("Main", .ground .tainted)]
       encode bindings)
      = .record [
          ("Main", .record [("lower", .record [("Ground", .text "TAINTED")]),
            ("upper", .record [("Ground", .text "TAINTED")])]),
          ("X", .record [("lower", .record [("Ground", .text "UNTAINTED")]),
            ("upper", .record [("Var", .record [("lower", .text "UNTAINTED"), ("name", .text "v"),
              ("upper", .text "TAINTED")])])])] :=
  rfl

end Stored

end QualifierBindings
