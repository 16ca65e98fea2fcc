import QualifierBindings.Conversion.Error
import QualifierBindings.Range
import QualifierBindings.Vocabulary

/-! What each annotation asks for, read off the annotation tree once. A clause
binds a parameter, opens one bound of a parameter, groups further clauses, or has
no bearing on parameters; a malformed annotation keeps its error in place, since
the error counts only when a pass comes to it.
-/

namespace QualifierBindings

/-- What a binding annotation binds its parameter to. -/
inductive Binder where
  | top
  | bottom
  | named (variableName : String)
  | anything
deriving DecidableEq

/-- The range of a binder over a lattice. A variable ranges over the whole lattice. -/
def Binder.range {Q : Type} (L : GroundLattice Q) : Binder → Range Q
  | .top => Range.ground L.top
  | .bottom => Range.ground L.bottom
  | .named variableName => Range.exact (.named variableName L.bottom L.top)
  | .anything => Range.between L.bottom L.top

/-- What one annotation asks for. -/
inductive Clause where
  /-- Nothing: another annotation, or one that only declares a parameter. -/
  | unrelated
  | binding (target : String) (binder : Binder)
  | modifier (kind : Modifier) (target : String)
  | group (clauses : List Clause)
  | brokenBinding (error : ConversionError)
  | brokenModifier (kind : Modifier) (error : ConversionError)
  | brokenGroup (error : ConversionError)

namespace Clause

def target (name : String) (elements : Entries (ElementValue Clause))
    : Except ConversionError String :=
  Elements.textOr Vocabulary.mainParameter name elements "target"

/-- The clause of a binding annotation, whose binder is read before its target. -/
def ofBinder (name : String) (elements : Entries (ElementValue Clause))
    (binder : Except ConversionError Binder) : Clause :=
  match binder with
  -- the target is not looked at when the binder is malformed
  | .error error => .brokenBinding error
  | .ok binder =>
      match target name elements with
      | .error error => .brokenBinding error
      | .ok parameter => .binding parameter binder

def ofModifier (name : String) (elements : Entries (ElementValue Clause)) (modifier : Modifier)
    : Clause :=
  match target name elements with
  | .error error => .brokenModifier modifier error
  | .ok parameter => .modifier modifier parameter

def ofAggregate (name : String) (elements : Entries (ElementValue Clause)) : Clause :=
  match Elements.requiredNested name elements "value" with
  | .error error => .brokenGroup error
  | .ok clauses => .group clauses

/-- The clause of an annotation, given the clauses of everything nested in it. -/
def assemble (vocabulary : Vocabulary) (name : String) (elements : Entries (ElementValue Clause))
    : Clause :=
  match vocabulary.classify? name with
  | none => .unrelated
  | some .taintingParam => .unrelated
  | some .aggregate => ofAggregate name elements
  | some .tainted => ofBinder name elements (.ok .top)
  | some .untainted => ofBinder name elements (.ok .bottom)
  | some .var =>
      ofBinder name elements ((Elements.requiredText name elements "value").map .named)
  | some .polyTainting => ofBinder name elements (.ok (.named Vocabulary.polyParameter))
  | some .wild => ofBinder name elements (.ok .anything)
  | some .extendsBound => ofModifier name elements .extendsBound
  | some .superBound => ofModifier name elements .superBound

mutual

def ofUse (vocabulary : Vocabulary) : AnnotationUse → Clause
  | ⟨name, elements⟩ => assemble vocabulary name (ofElements vocabulary elements)

def ofElements (vocabulary : Vocabulary)
    : List (String × ElementValue AnnotationUse) → Entries (ElementValue Clause)
  | [] => []
  | (element, value) :: rest => (element, ofValue vocabulary value) :: ofElements vocabulary rest

def ofValue (vocabulary : Vocabulary) : ElementValue AnnotationUse → ElementValue Clause
  | .text value => .text value
  | .annotations items => .annotations (ofUses vocabulary items)

/-- The clauses of annotations in order. -/
def ofUses (vocabulary : Vocabulary) : List AnnotationUse → List Clause
  | [] => []
  | use :: rest => ofUse vocabulary use :: ofUses vocabulary rest

end

/-- A clause is assembled from the name of the annotation and the readings of its elements. -/
theorem ofUse_eq_assemble (vocabulary : Vocabulary) (use : AnnotationUse)
    : ofUse vocabulary use
      = assemble vocabulary use.name (ofElements vocabulary use.elements) := by
  cases use
  rw [ofUse]

/-- Annotations are read one by one. -/
theorem ofUses_eq_map (vocabulary : Vocabulary) (annotations : List AnnotationUse)
    : ofUses vocabulary annotations = annotations.map (ofUse vocabulary) := by
  induction annotations with
  | nil => rfl
  | cons use rest ih => simp [ofUses, ih]

/-- Elements are read under their names. -/
theorem ofElements_eq_mapValues (vocabulary : Vocabulary)
    (elements : List (String × ElementValue AnnotationUse))
    : ofElements vocabulary elements = Entries.mapValues (ofValue vocabulary) elements := by
  induction elements with
  | nil => rfl
  | cons element rest ih =>
      cases element
      simp [ofElements, ih, Entries.mapValues]

end Clause

end QualifierBindings
