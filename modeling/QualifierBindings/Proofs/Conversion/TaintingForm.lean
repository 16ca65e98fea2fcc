import Mathlib.Data.List.Induction
import QualifierBindings.Proofs.Conversion.Outcome
import QualifierBindings.Proofs.Hierarchy.TwoPoint

/-! The result of a conversion over the tainting lattice in closed form: each bound of
each parameter is read off the leaves that target the parameter, by what occurs among
them and not by where it stands.
-/

namespace QualifierBindings

namespace AnnotationUse

/-- The variable that a binding annotation names, its own or the one of polymorphic
signatures. -/
def variableName? (vocabulary : Vocabulary) (use : AnnotationUse) : Option String :=
  match vocabulary.classify? use.name with
  | some .var => use.textElement? "value"
  | some .polyTainting => some Vocabulary.polyParameter
  | _ => none

def variableNames (vocabulary : Vocabulary) (parameter : String)
    (annotations : List AnnotationUse) : List String :=
  (bindingLeaves vocabulary parameter annotations).filterMap (variableName? vocabulary)

end AnnotationUse

namespace Taint

/-- The closed form of a joined bound: tainted when something forces it or two different
variables meet, the variable when there is one, and untainted otherwise. -/
def closedBound (forced : Bool) (names : List String) : Qualifier Taint :=
  if forced = true ∨ ∃ one ∈ names, ∃ other ∈ names, one ≠ other then .ground .tainted
  else
    match names with
    | [] => .ground .untainted
    | name :: _ => .named name .untainted .tainted

end Taint

namespace Binder

def variableName? : Binder → Option String
  | .named name => some name
  | _ => none

/-- The binders whose lower bound is tainted. -/
def raisesLower (binder : Binder) : Bool :=
  binder = .top

/-- The binders whose upper bound is tainted. -/
def raisesUpper (binder : Binder) : Bool :=
  binder = .top ∨ binder = .anything

/-- The bound of a binder over the tainting lattice, given which binders raise it. -/
def taintBound (raises : Binder → Bool) (binder : Binder) : Qualifier Taint :=
  Taint.closedBound (raises binder) binder.variableName?.toList

/-- The lower bound of a binder is tainted, a variable or untainted. -/
theorem lower_range_tainting (binder : Binder)
    : (binder.range GroundLattice.tainting).lower = binder.taintBound raisesLower := by
  cases binder <;> simp [range, taintBound, raisesLower, variableName?, Taint.closedBound] <;> rfl

/-- So is its upper bound, which more binders raise. -/
theorem upper_range_tainting (binder : Binder)
    : (binder.range GroundLattice.tainting).upper = binder.taintBound raisesUpper := by
  cases binder <;> simp [range, taintBound, raisesUpper, variableName?, Taint.closedBound] <;> rfl

end Binder

namespace Taint

open GroundLattice

/-- The closed form of a bound is settled. -/
theorem settled_closedBound (forced : Bool) (names : List String)
    : Settled tainting (closedBound forced names) := by
  unfold closedBound
  split
  · exact .top
  · cases names with
    | nil => exact .bottom
    | cons name rest => exact .free name

/-- A bound that is raised is tainted, whatever variables there are. -/
theorem closedBound_forced (names : List String) : closedBound true names = .ground .tainted := by
  simp [closedBound]

/-- Two different variables meet in tainted. -/
theorem closedBound_of_different {names : List String} {one other : String}
    (first : one ∈ names) (second : other ∈ names) (different : one ≠ other) (forced : Bool)
    : closedBound forced names = .ground .tainted :=
  if_pos (Or.inr ⟨one, first, other, second, different⟩)

/-- One variable stays however often it occurs. -/
theorem closedBound_of_same {name : String} {rest : List String}
    (same : ∀ other ∈ rest, other = name)
    : closedBound false (name :: rest) = .named name .untainted .tainted := by
  have single : ∀ other ∈ name :: rest, other = name := by simpa using same
  unfold closedBound
  rw [if_neg]
  rintro (forced | ⟨one, first, other, second, different⟩)
  · contradiction
  · exact different ((single one first).trans (single other second).symm)

/-- Joining one more variable adds its name. -/
theorem join_closedBound_named (forced : Bool) (names : List String) (name : String)
    : tainting.hierarchy.join (closedBound forced names) (.named name .untainted .tainted)
      = closedBound forced (names ++ [name]) := by
  have two := twoPoint_tainting
  have absorbed : tainting.hierarchy.join (.ground .tainted) (.named name .untainted .tainted)
      = .ground .tainted :=
    two.top_join _
  cases forced with
  | true => rw [closedBound_forced, closedBound_forced, absorbed]
  | false =>
      cases names with
      | nil =>
          have lowest : closedBound false [] = .ground .untainted := by simp [closedBound]
          rw [lowest, List.nil_append, closedBound_of_same (by simp)]
          exact two.bottom_join (.free name)
      | cons old rest =>
          by_cases same : ∀ other ∈ rest, other = old
          · rw [closedBound_of_same same]
            by_cases again : old = name
            · subst again
              have still : ∀ other ∈ rest ++ [old], other = old := by
                intro other member
                rcases List.mem_append.mp member with earlier | last
                · exact same other earlier
                · exact List.mem_singleton.mp last
              rw [two.lubLaws.join_idem, List.cons_append, closedBound_of_same still]
            · rw [closedBound_of_different (by simp) (by simp) again]
              exact two.free_join_free again
          · simp only [not_forall] at same
            obtain ⟨other, member, different⟩ := same
            rw [closedBound_of_different (List.mem_cons_of_mem _ member) (by simp) different,
              closedBound_of_different (List.mem_append_left _ (List.mem_cons_of_mem _ member))
                (by simp) different, absorbed]

/-- The join of a closed bound with that of one binder is the closed bound of all that
occurs in both. -/
theorem join_closedBound (forced raised : Bool) (names : List String) (name? : Option String)
    : tainting.hierarchy.join (closedBound forced names) (closedBound raised name?.toList)
      = closedBound (forced || raised) (names ++ name?.toList) := by
  have two := twoPoint_tainting
  have settled := settled_closedBound forced names
  cases raised with
  | true =>
      rw [closedBound_forced, two.lubLaws.join_comm, Bool.or_true, closedBound_forced]
      exact two.top_join _
  | false =>
      cases name? with
      | none =>
          have lowest : closedBound false [] = .ground .untainted := by simp [closedBound]
          rw [Option.toList_none, lowest, two.lubLaws.join_comm, List.append_nil, Bool.or_false]
          exact two.bottom_join settled
      | some name =>
          rw [Option.toList_some, closedBound_of_same (by simp), Bool.or_false]
          exact join_closedBound_named forced names name

/-- The bounds of binders fold to the closed bound of all of them, taken from the first
binder on. -/
theorem foldl_taintBound (raises : Binder → Bool) (first : Binder) (binders : List Binder)
    : (binders.map (fun binder => some (binder.taintBound raises))).foldl
          (Option.merge tainting.hierarchy.join) (some (first.taintBound raises))
      = some (closedBound ((first :: binders).any raises)
          ((first :: binders).filterMap Binder.variableName?)) := by
  have single : ∀ binder : Binder,
      [binder].filterMap Binder.variableName? = binder.variableName?.toList := by
    intro binder
    cases binder <;> rfl
  induction binders using List.reverseRecOn with
  | nil => simp [Binder.taintBound, single]
  | append_singleton binders last ih =>
      rw [List.map_append, List.foldl_append, ih]
      simp only [List.map_cons, List.map_nil, List.foldl_cons, List.foldl_nil,
        Option.merge_some_some, Binder.taintBound, join_closedBound]
      rw [← List.cons_append, List.any_append, List.filterMap_append, single]
      simp

end Taint

namespace AnnotationUse

/-- The names of variables are those of the binders. -/
theorem filterMap_bindersAt (vocabulary : Vocabulary) (parameter : String)
    (annotations : List AnnotationUse)
    : (bindersAt vocabulary parameter annotations).filterMap Binder.variableName?
      = variableNames vocabulary parameter annotations := by
  rw [← filterMap_bindingLeaves, List.filterMap_filterMap, variableNames]
  congr 1
  funext use
  unfold binder? variableName?
  cases vocabulary.classify? use.name with
  | none => rfl
  | some marker =>
      cases marker with
      | var => cases use.textElement? "value" <;> rfl
      | _ => rfl

/-- Only tainted annotations bind to the top. -/
theorem binder?_eq_top_iff {vocabulary : Vocabulary} {use : AnnotationUse}
    : use.binder? vocabulary = some .top ↔ vocabulary.classify? use.name = some .tainted := by
  unfold binder?
  cases vocabulary.classify? use.name with
  | none => simp
  | some marker => cases marker <;> simp

/-- Only wildcards bind to everything. -/
theorem binder?_eq_anything_iff {vocabulary : Vocabulary} {use : AnnotationUse}
    : use.binder? vocabulary = some .anything
      ↔ vocabulary.classify? use.name = some .wild := by
  unfold binder?
  cases vocabulary.classify? use.name with
  | none => simp
  | some marker => cases marker <;> simp

/-- A binder that only one marker has occurs exactly when that marker targets the
parameter. -/
theorem mem_bindersAt_iff {vocabulary : Vocabulary} {binder : Binder} {marker : Marker}
    (own
      : ∀ use : AnnotationUse,
          use.binder? vocabulary = some binder ↔ vocabulary.classify? use.name = some marker)
    (parameter : String) (annotations : List AnnotationUse)
    : binder ∈ bindersAt vocabulary parameter annotations
      ↔ isTargetedBy vocabulary marker parameter annotations = true := by
  simp only [bindersAt, List.mem_filterMap, binderAt?_eq_some_iff, own, isTargetedBy_iff]
  simp only [and_comm]

/-- The lower bound is raised by a tainted annotation. -/
theorem any_raisesLower (vocabulary : Vocabulary) (parameter : String)
    (annotations : List AnnotationUse)
    : (bindersAt vocabulary parameter annotations).any Binder.raisesLower
      = isTargetedBy vocabulary .tainted parameter annotations := by
  rw [Bool.eq_iff_iff, ← mem_bindersAt_iff (fun _ => binder?_eq_top_iff)]
  simp [Binder.raisesLower]

/-- The upper bound is raised by a tainted annotation or a wildcard. -/
theorem any_raisesUpper (vocabulary : Vocabulary) (parameter : String)
    (annotations : List AnnotationUse)
    : (bindersAt vocabulary parameter annotations).any Binder.raisesUpper
      = (isTargetedBy vocabulary .tainted parameter annotations
        || isTargetedBy vocabulary .wild parameter annotations) := by
  rw [Bool.eq_iff_iff, Bool.or_eq_true, ← mem_bindersAt_iff (fun _ => binder?_eq_top_iff),
    ← mem_bindersAt_iff (fun _ => binder?_eq_anything_iff)]
  simp only [Binder.raisesUpper, List.any_eq_true, decide_eq_true_eq]
  constructor
  · rintro ⟨binder, member, rfl | rfl⟩
    · exact Or.inl member
    · exact Or.inr member
  · rintro (member | member)
    · exact ⟨_, member, Or.inl rfl⟩
    · exact ⟨_, member, Or.inr rfl⟩

/-- The closed form of the range that annotations give a parameter they bind. -/
def closedRange (vocabulary : Vocabulary) (parameter : String)
    (annotations : List AnnotationUse) : Range Taint :=
  { lower :=
      if isTargetedBy vocabulary .extendsBound parameter annotations then .ground .untainted
      else
        Taint.closedBound (isTargetedBy vocabulary .tainted parameter annotations)
          (variableNames vocabulary parameter annotations),
    upper :=
      if isTargetedBy vocabulary .superBound parameter annotations then .ground .tainted
      else
        Taint.closedBound
          (isTargetedBy vocabulary .tainted parameter annotations
            || isTargetedBy vocabulary .wild parameter annotations)
          (variableNames vocabulary parameter annotations) }

end AnnotationUse

namespace Converter

open AnnotationUse GroundLattice

/-- The fold of one bound over the tainting lattice, in closed form. -/
theorem parameterFold_taintBound (raises : Binder → Bool) (vocabulary : Vocabulary)
    (parameter : String) (annotations : List AnnotationUse)
    : parameterFold tainting.hierarchy.join (Binder.taintBound raises) vocabulary parameter
          annotations
      = if (bindersAt vocabulary parameter annotations).isEmpty then none
        else
          some (Taint.closedBound ((bindersAt vocabulary parameter annotations).any raises)
            (variableNames vocabulary parameter annotations)) := by
  have : Std.Associative tainting.hierarchy.join := ⟨twoPoint_tainting.join_assoc⟩
  rw [parameterFold, foldFrom_eq_foldl, ← filterMap_bindersAt]
  cases bindersAt vocabulary parameter annotations with
  | nil => rfl
  | cons first rest =>
      rw [List.map_cons, List.foldl_cons, Option.merge_none_left, Taint.foldl_taintBound]
      rfl

/-- One bound of the folded range of a parameter, in closed form. The bound is taken by a
projection that the joins of ranges respect. -/
theorem map_foldedRange_tainting (converter : Converter Taint)
    (usual : converter.hierarchy = tainting.hierarchy) {bound : Range Taint → Qualifier Taint}
    (raises : Binder → Bool)
    (joined
      : ∀ old new,
          bound (Range.pointwise tainting.hierarchy.join old new)
            = tainting.hierarchy.join (bound old) (bound new))
    (ofBinder : ∀ binder : Binder, bound (binder.range tainting) = binder.taintBound raises)
    (parameter : String) (annotations : List AnnotationUse)
    : (converter.foldedRange parameter annotations).map bound
      = if (bindersAt converter.vocabulary parameter annotations).isEmpty then none
        else
          some (Taint.closedBound
            ((bindersAt converter.vocabulary parameter annotations).any raises)
            (variableNames converter.vocabulary parameter annotations)) := by
  have own : bound ∘ Binder.range tainting = Binder.taintBound raises := funext ofBinder
  rw [← parameterFold_taintBound, foldedRange, usual, parameterFold, map_foldFrom bound joined]
  change foldFrom _ (bound ∘ Binder.range tainting) _ _ _ _ = _
  rw [own]
  rfl

/-- A successful conversion over the tainting lattice binds exactly the parameters that
some leaf binds, each to its closed form; it has no result when there are none. -/
theorem convert_tainting_closedForm (vocabulary : Vocabulary) (missingBase : MissingBase)
    (annotations : List AnnotationUse) (result : Option (Bindings Taint))
    (converted
      : (convert { vocabulary, hierarchy := tainting.hierarchy, missingBase }
          annotations).outcome = .ok result)
    : (result = none ↔ ∀ parameter, bindingLeaves vocabulary parameter annotations = [])
      ∧ ∀ parameter,
          rangeAt result parameter
            = if bindingLeaves vocabulary parameter annotations = [] then none
              else some (closedRange vocabulary parameter annotations) := by
  obtain ⟨bindings, rfl, known⟩ := answer_of_convert_eq_ok converted
  obtain ⟨sound, _⟩ := accepted_of_convert_eq_ok converted
  have ranges : ∀ parameter,
      bindings.get? parameter
        = if bindingLeaves vocabulary parameter annotations = [] then none
          else some (closedRange vocabulary parameter annotations) := by
    intro parameter
    have lower := map_foldedRange_tainting
      { vocabulary, hierarchy := tainting.hierarchy, missingBase } rfl Binder.raisesLower
      (fun _ _ => rfl) Binder.lower_range_tainting parameter annotations
    have upper := map_foldedRange_tainting
      { vocabulary, hierarchy := tainting.hierarchy, missingBase } rfl Binder.raisesUpper
      (fun _ _ => rfl) Binder.upper_range_tainting parameter annotations
    have empty : (bindersAt vocabulary parameter annotations).isEmpty
        = (bindingLeaves vocabulary parameter annotations).isEmpty := by
      simpa [isBound] using isEmpty_bindersAt sound parameter
    rw [empty, any_raisesLower] at lower
    rw [empty, any_raisesUpper] at upper
    rw [known]
    -- both closed forms speak of one folded range, which is there when some leaf binds
    by_cases unbound : bindingLeaves vocabulary parameter annotations = []
    · simp only [unbound, List.isEmpty_nil, if_true, Option.map_eq_none_iff] at lower
      rw [if_pos unbound, lower, Option.map_none]
    · have held : (bindingLeaves vocabulary parameter annotations).isEmpty = false := by
        simpa using unbound
      simp only [held, Bool.false_eq_true, if_false, Option.map_eq_some_iff] at lower upper
      obtain ⟨range, folded, lowerBound⟩ := lower
      obtain ⟨_, again, upperBound⟩ := upper
      obtain rfl := Option.some.inj (folded.symm.trans again)
      rw [if_neg unbound, folded, Option.map_some, Modifier.applyAll_eq, lowerBound, upperBound]
      simp only [mem_modifiersAt_iff_isTargetedBy]
      rfl
  refine ⟨?_, ?_⟩
  · simp only [answer_eq_none_iff, ranges, ite_eq_left_iff, reduceCtorEq, imp_false, not_not]
  · intro parameter
    rw [rangeAt_answer, ranges]

/-- A modifier before the first binding of its parameter, bindings at two depths, and a
polymorphic variable that meets bottom. -/
def nestedBindings : List AnnotationUse :=
  [⟨"q.Extends", [("target", .text "X")]⟩,
    ⟨"q.MultiVar", [("value", .annotations
      [⟨"q.Var", [("target", .text "X"), ("value", .text "v")]⟩,
        ⟨"q.Multi", [("value", .annotations
          [⟨"q.PolyTainting", []⟩, ⟨"q.Wild", [("target", .text "X")]⟩])]⟩])]⟩,
    ⟨"q.Untainted", []⟩, ⟨"q.Super", []⟩]

theorem convert_tainting_closedForm_nested
    : ∃ result,
        (convert { vocabulary := ⟨"q"⟩, hierarchy := tainting.hierarchy, missingBase := .error }
          nestedBindings).outcome = .ok result
        ∧ rangeAt result "X" = some ⟨.ground .untainted, .ground .tainted⟩
        ∧ rangeAt result "Main"
          = some ⟨.named "_poly" .untainted .tainted, .ground .tainted⟩ := by
  refine ⟨_, rfl, ?_, ?_⟩
  · rw [(convert_tainting_closedForm ⟨"q"⟩ .error nestedBindings _ rfl).2 "X"]
    decide +kernel
  · rw [(convert_tainting_closedForm ⟨"q"⟩ .error nestedBindings _ rfl).2 "Main"]
    decide +kernel

end Converter

end QualifierBindings
