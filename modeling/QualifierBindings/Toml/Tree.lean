import QualifierBindings.Toml.Value

/-! The tables of a TOML document while it is being read. A table remembers how it
came about, since a table given by a header or as a value cannot be given again, and
one made by dotted keys can only be extended by dotted keys.
-/

namespace QualifierBindings.Toml

/-- How a table came about. -/
inductive Origin where
  /-- By a header of its own. -/
  | header
  /-- On the way to a header further inside. -/
  | implied
  /-- By dotted keys. -/
  | dotted
deriving DecidableEq

/-- What stands at a key of a table that is still open. -/
inductive Node where
  /-- A value, which cannot be extended. -/
  | closed (value : Value)
  | table (origin : Origin) (members : List (String × Node))
  /-- The tables of an array of tables, the last of which is open. -/
  | tables (elements : List (List (String × Node)))

/-- The members of an open table. -/
abbrev Members := List (String × Node)

namespace Members

def find? (members : Members) (key : String) : Option Node :=
  members.lookup key

def replace (key : String) (node : Node) (members : Members) : Members :=
  members.map (fun member => if member.1 = key then (key, node) else member)

def append (key : String) (node : Node) (members : Members) : Members :=
  members ++ [(key, node)]

/-- The members without those at a key. -/
def remove (key : String) (members : Members) : Members :=
  members.filter (fun member => member.1 ≠ key)

def inLast (change : Members → Option Members) : List Members → Option (List Members)
  | [] => none
  | [last] => (change last).map (fun changed => [changed])
  | first :: rest => (inLast change rest).map (first :: ·)

/-- A value given by a key at the end of a path of dotted keys, in a table that takes
the key only if `takes` says so. -/
def assign (key : String) (value : Value) : Bool → List String → Members → Option Members
  | takes, [], members =>
      if takes && (members.find? key).isNone then some (members.append key (.closed value))
      else none
  | _, segment :: path, members =>
      match members.find? segment with
      | none =>
          (assign key value true path []).map (fun inner =>
            members.append segment (.table .dotted inner))
      -- a table that has a header of its own is complete for dotted keys
      | some (.table .header _) => none
      | some (.table origin inner) =>
          (assign key value (origin = .dotted) path inner).map (fun inner =>
            members.replace segment (.table origin inner))
      | some (.tables elements) =>
          (inLast (assign key value false path) elements).map (fun elements =>
            members.replace segment (.tables elements))
      | some (.closed _) => none

/-- A change made to the table that a path of keys leads to, through the last tables
of arrays. Absent tables on the way are implied. -/
def descend (change : Members → Option Members) : List String → Members → Option Members
  | [], members => change members
  | segment :: path, members =>
      match members.find? segment with
      | none =>
          (descend change path []).map (fun inner =>
            members.append segment (.table .implied inner))
      | some (.table origin inner) =>
          (descend change path inner).map (fun inner =>
            members.replace segment (.table origin inner))
      | some (.tables elements) =>
          (inLast (descend change path) elements).map (fun elements =>
            members.replace segment (.tables elements))
      | some (.closed _) => none

/-- A table opened by a header. An implied table moves to the end and keeps what it
holds; any other node at its key is in the way. -/
def openTable (key : String) (members : Members) : Option Members :=
  match members.find? key with
  | none => some (members.append key (.table .header []))
  | some (.table .implied inner) => some ((members.remove key).append key (.table .header inner))
  | some _ => none

def openElement (key : String) (members : Members) : Option Members :=
  match members.find? key with
  | none => some (members.append key (.tables [[]]))
  | some (.tables elements) => some (members.replace key (.tables (elements ++ [[]])))
  | some _ => none

mutual

def close : Node → Value
  | .closed value => value
  | .table _ members => .table (closeMembers members)
  | .tables elements => .tables (closeElements elements)

def closeMembers : List (String × Node) → List (String × Value)
  | [] => []
  | (key, node) :: rest => (key, close node) :: closeMembers rest

def closeElements : List (List (String × Node)) → List (List (String × Value))
  | [] => []
  | members :: rest => closeMembers members :: closeElements rest

end

end Members

end QualifierBindings.Toml
