import QualifierBindings.NameMap
import QualifierBindings.Range

/-! The bindings of one type use: a range for every bound qualifier parameter, and
the merge of two sets of bindings. The main statement, `get?_merge`, says that the
merge is made name by name.
-/

namespace QualifierBindings

/-- A range for each bound parameter. -/
abbrev Bindings (Q : Type) := NameMap (Range Q)

namespace Bindings

variable {Q : Type}

/-- A contribution to a parameter that may be bound: taken as is if the parameter
is new, combined with the older range otherwise. -/
def joined (op : Qualifier Q → Qualifier Q → Qualifier Q) (old : Option (Range Q))
    (range : Range Q) : Range Q :=
  match old with
  | none => range
  | some old => old.pointwise op range

def contribute (op : Qualifier Q → Qualifier Q → Qualifier Q) (bindings : Bindings Q)
    (parameter : String) (range : Range Q) : Bindings Q :=
  bindings.insert parameter (joined op (bindings.get? parameter) range)

/-- All ranges of `new` contribute to `old`, in order of their parameters. -/
def merge (op : Qualifier Q → Qualifier Q → Qualifier Q) (old new : Bindings Q) : Bindings Q :=
  new.entries.foldl (fun bindings entry => contribute op bindings entry.1 entry.2) old

/-- Bindings are written as parameters with their ranges, between braces. -/
def text [ToString Q] (bindings : Bindings Q) : String :=
  "\x7b" ++ String.intercalate ", " (bindings.entries.map (fun entry =>
    entry.1 ++ "=" ++ entry.2.text)) ++ "\x7d"

/-- Contributions in ascending order of their parameters reach each parameter once. -/
theorem get?_foldl_contribute (op : Qualifier Q → Qualifier Q → Qualifier Q)
    (entries : Entries (Range Q)) (ascending : entries.Ascending) (old : Bindings Q)
    (name : String)
    : NameMap.get?
          (entries.foldl (fun bindings entry => contribute op bindings entry.1 entry.2) old) name
      = match entries.get? name with
        | none => old.get? name
        | some range => some (joined op (old.get? name) range) := by
  induction entries generalizing old with
  | nil => rfl
  | cons entry rest ih =>
      obtain ⟨below, restAscending⟩ := List.pairwise_cons.mp ascending
      rw [List.foldl_cons, ih restAscending]
      by_cases same : entry.1 = name
      · subst same
        have absent : Entries.get? entry.1 rest = none := by
          cases found : Entries.get? entry.1 rest with
          | none => rfl
          | some range =>
              exact absurd (below _ (Entries.mem_of_get?_eq_some found)) (String.lt_irrefl _)
        simp [Entries.get?, absent, contribute]
      · simp [Entries.get?, same, contribute, Ne.symm same]

/-- A parameter bound on one side keeps its range; one bound on both sides gets the
combination, the older range as first argument. -/
theorem get?_merge (op : Qualifier Q → Qualifier Q → Qualifier Q) (old new : Bindings Q)
    (name : String)
    : (merge op old new).get? name
      = match new.get? name with
        | none => old.get? name
        | some range => some (joined op (old.get? name) range) :=
  get?_foldl_contribute op new.entries new.ascending old name

end Bindings

end QualifierBindings
