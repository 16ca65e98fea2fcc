import QualifierBindings.Conversion.Converter

/-! A caller that keeps one converter for many conversions: annotations are collected and
changed step by step and converted anew after every step. The caller holds no state of a
conversion, only the converter and the annotations.
-/

namespace QualifierBindings

/-- A converter together with the annotations that are pending. -/
structure Session (Q : Type) where
  converter : Converter Q
  pending : List AnnotationUse

namespace Session

variable {Q : Type}

/-- A session without pending annotations. -/
def start (converter : Converter Q) : Session Q :=
  { converter, pending := [] }

def push (session : Session Q) (use : AnnotationUse) : Session Q :=
  { session with pending := session.pending ++ [use] }

def pushFront (session : Session Q) (use : AnnotationUse) : Session Q :=
  { session with pending := use :: session.pending }

def pop (session : Session Q) : Session Q :=
  { session with pending := session.pending.dropLast }

/-- The annotations in the opposite order. -/
def reverse (session : Session Q) : Session Q :=
  { session with pending := session.pending.reverse }

def clear (session : Session Q) : Session Q :=
  { session with pending := [] }

def wrap (session : Session Q) (name : String) : Session Q :=
  { session with
    pending := [(AnnotationUse.new name).withElement "value" (.annotations session.pending)] }

/-- Another policy for modifiers without a base. -/
def withMissingBase (session : Session Q) (missingBase : MissingBase) : Session Q :=
  { session with converter := { session.converter with missingBase } }

def withHierarchy (session : Session Q) (hierarchy : Hierarchy Q) : Session Q :=
  { session with converter := { session.converter with hierarchy } }

def outcome (session : Session Q) : Except ConversionError (Option (Bindings Q)) :=
  (session.converter.convert session.pending).outcome

end Session

end QualifierBindings
