/-! Finite maps from names to values. The entries stand in ascending order of
their names, by code point, so two maps are equal exactly when they hold the
same value at every name.
-/

namespace QualifierBindings

/-- Named values, in the order in which they are kept. -/
abbrev Entries (α : Type) := List (String × α)

namespace Entries

variable {α β : Type}

def get? (name : String) : Entries α → Option α
  | [] => none
  | (other, value) :: rest => if other = name then some value else get? name rest

/-- Ordered insertion replaces the value at a name already present. -/
def insert (name : String) (value : α) : Entries α → Entries α
  | [] => [(name, value)]
  | (other, old) :: rest =>
      if name < other then (name, value) :: (other, old) :: rest
      else if name = other then (name, value) :: rest
      else (other, old) :: insert name value rest

/-- The names stand in strictly ascending order. -/
def Ascending (entries : Entries α) : Prop :=
  entries.Pairwise (fun left right => left.1 < right.1)

def mapValues (f : α → β) (entries : Entries α) : Entries β :=
  entries.map (fun entry => (entry.1, f entry.2))

/-- Inserting under a name changes what is found under it, and under no other one. -/
theorem get?_insert (name other : String) (value : α) (entries : Entries α)
    : get? other (insert name value entries)
      = if other = name then some value else get? other entries := by
  induction entries with
  | nil => grind [insert, get?]
  | cons entry rest ih => grind [insert, get?]

/-- An entry after an insertion is the new one or an old one. -/
theorem mem_insert {name : String} {value : α} {entries : Entries α} {entry : String × α}
    (member : entry ∈ insert name value entries)
    : entry = (name, value) ∨ entry ∈ entries := by
  induction entries with
  | nil => simpa [insert] using member
  | cons head rest ih => grind [insert]

/-- Insertion keeps the names ascending. -/
theorem ascending_insert (name : String) (value : α) (entries : Entries α)
    (ascending : Ascending entries)
    : Ascending (insert name value entries) := by
  induction entries with
  | nil => simp [insert, Ascending]
  | cons head rest ih =>
      obtain ⟨headBelow, restAscending⟩ := List.pairwise_cons.mp ascending
      rw [insert]
      split
      · rename_i less
        refine List.pairwise_cons.mpr ⟨?_, ascending⟩
        grind
      · split
        · rename_i equal
          subst equal
          exact List.pairwise_cons.mpr ⟨headBelow, restAscending⟩
        · refine List.pairwise_cons.mpr ⟨?_, ih restAscending⟩
          intro entry member
          rcases mem_insert member with he | hm
          · subst he
            grind
          · exact headBelow entry hm

/-- Of ascending entries each is found under its name. -/
theorem get?_eq_some_of_mem {entries : Entries α} (ascending : Ascending entries)
    {name : String} {value : α} (member : (name, value) ∈ entries)
    : get? name entries = some value := by
  induction entries with
  | nil => simp at member
  | cons head rest ih =>
      obtain ⟨headBelow, restAscending⟩ := List.pairwise_cons.mp ascending
      rcases List.mem_cons.mp member with he | hm
      · subst he
        simp [get?]
      · have below := headBelow _ hm
        have different : head.1 ≠ name := by grind
        simp [get?, different, ih restAscending hm]

/-- What is found is an entry. -/
theorem mem_of_get?_eq_some {entries : Entries α} {name : String} {value : α}
    (found : get? name entries = some value)
    : (name, value) ∈ entries := by
  induction entries with
  | nil => simp [get?] at found
  | cons head rest ih => grind [get?]

/-- Ascending entries are determined by their look-ups. -/
theorem eq_of_get?_eq {left right : Entries α} (hl : Ascending left) (hr : Ascending right)
    (same : ∀ name, get? name left = get? name right)
    : left = right := by
  have pairwise_eq := @List.Perm.eq_of_pairwise (String × α)
    (fun a b => a.1 < b.1) left right
  refine pairwise_eq ?_ hl hr ?_
  · intro a b _ _ hab hba
    exact absurd hba (String.lt_asymm hab)
  · have nodup_of : ∀ {entries : Entries α}, Ascending entries → entries.Nodup := by
      intro entries ascending
      refine List.Pairwise.imp ?_ ascending
      intro a b less equal
      subst equal
      exact String.lt_irrefl _ less
    rw [List.perm_ext_iff_of_nodup (nodup_of hl) (nodup_of hr)]
    intro entry
    constructor
    · intro member
      exact mem_of_get?_eq_some (by rw [← same]; exact get?_eq_some_of_mem hl member)
    · intro member
      exact mem_of_get?_eq_some (by rw [same]; exact get?_eq_some_of_mem hr member)

/-- Changed values leave the names ascending. -/
theorem ascending_mapValues (f : α → β) (entries : Entries α) (ascending : Ascending entries)
    : Ascending (mapValues f entries) :=
  List.pairwise_map.mpr ascending

/-- A changed value is found where the value was. -/
theorem get?_mapValues (f : α → β) (name : String) (entries : Entries α)
    : get? name (mapValues f entries) = (get? name entries).map f := by
  induction entries with
  | nil => rfl
  | cons head rest ih => grind [mapValues, get?]

end Entries

/-- A finite map from names to values. -/
structure NameMap (α : Type) where
  entries : Entries α
  ascending : entries.Ascending
deriving DecidableEq

namespace NameMap

variable {α β : Type}

/-- The map without entries. -/
def empty : NameMap α :=
  { entries := [], ascending := List.Pairwise.nil }

def get? (map : NameMap α) (name : String) : Option α :=
  map.entries.get? name

/-- The map with a value added, or replaced, at one name. -/
def insert (map : NameMap α) (name : String) (value : α) : NameMap α :=
  { entries := map.entries.insert name value,
    ascending := Entries.ascending_insert name value map.entries map.ascending }

def singleton (name : String) (value : α) : NameMap α :=
  empty.insert name value

/-- Later entries replace earlier ones of the same name. -/
def ofList (entries : Entries α) : NameMap α :=
  entries.foldl (fun map entry => map.insert entry.1 entry.2) empty

/-- The names in ascending order. -/
def names (map : NameMap α) : List String :=
  map.entries.map Prod.fst

def contains (map : NameMap α) (name : String) : Bool :=
  (map.get? name).isSome

def size (map : NameMap α) : Nat :=
  map.entries.length

def isEmpty (map : NameMap α) : Bool :=
  map.entries.isEmpty

def mapValues (f : α → β) (map : NameMap α) : NameMap β :=
  { entries := map.entries.mapValues f,
    ascending := Entries.ascending_mapValues f map.entries map.ascending }

@[simp] theorem size_empty : (empty : NameMap α).size = 0 := rfl

@[simp] theorem size_singleton (name : String) (value : α) : (singleton name value).size = 1 := rfl

@[simp] theorem get?_empty (name : String) : (empty : NameMap α).get? name = none := rfl

@[simp] theorem get?_insert (map : NameMap α) (name other : String) (value : α)
    : (map.insert name value).get? other = if other = name then some value else map.get? other :=
  Entries.get?_insert name other value map.entries

@[simp] theorem get?_mapValues (f : α → β) (map : NameMap α) (name : String)
    : (map.mapValues f).get? name = (map.get? name).map f :=
  Entries.get?_mapValues f name map.entries

@[simp] theorem isEmpty_mapValues (f : α → β) (map : NameMap α)
    : (map.mapValues f).isEmpty = map.isEmpty :=
  List.isEmpty_map

/-- Maps with the same look-ups are equal. -/
theorem ext_get? {left right : NameMap α} (same : ∀ name, left.get? name = right.get? name)
    : left = right := by
  cases left with
  | mk leftEntries leftAscending =>
      cases right with
      | mk rightEntries rightAscending =>
          have equal : leftEntries = rightEntries :=
            Entries.eq_of_get?_eq leftAscending rightAscending same
          subst equal
          rfl

@[simp] theorem mapValues_id (map : NameMap α) : map.mapValues id = map :=
  ext_get? (by simp)

/-- The entries of a map are what is found in it. -/
theorem mem_entries_iff (map : NameMap α) (name : String) (value : α)
    : (name, value) ∈ map.entries ↔ map.get? name = some value :=
  ⟨Entries.get?_eq_some_of_mem map.ascending, Entries.mem_of_get?_eq_some⟩

/-- The names of a map are those under which something is found. -/
theorem mem_names_iff (map : NameMap α) (name : String)
    : name ∈ map.names ↔ (map.get? name).isSome := by
  simp only [names, List.mem_map, Option.isSome_iff_exists, ← mem_entries_iff]
  constructor
  · rintro ⟨entry, member, rfl⟩
    exact ⟨entry.2, member⟩
  · rintro ⟨value, member⟩
    exact ⟨(name, value), member, rfl⟩

/-- No name occurs twice. -/
theorem nodup_names (map : NameMap α) : map.names.Nodup :=
  List.pairwise_map.mpr (map.ascending.imp (fun less => String.ne_of_lt less))

/-- Entries of different names all end up in the map. -/
theorem get?_foldl_insert {entries : Entries α} (distinct : (entries.map Prod.fst).Nodup)
    (map : NameMap α) (name : String)
    : NameMap.get? (entries.foldl (fun map entry => map.insert entry.1 entry.2) map) name
      = (entries.get? name).or (map.get? name) := by
  induction entries generalizing map with
  | nil => rfl
  | cons entry rest ih =>
      obtain ⟨absent, distinctRest⟩ := List.nodup_cons.mp distinct
      rw [List.foldl_cons, ih distinctRest, get?_insert]
      by_cases same : entry.1 = name
      · subst same
        have unfound : Entries.get? entry.1 rest = none := by
          cases found : Entries.get? entry.1 rest with
          | none => rfl
          | some value =>
              have member := Entries.mem_of_get?_eq_some found
              exact absurd (List.mem_map_of_mem member) absent
        simp [Entries.get?, unfound]
      · simp [Entries.get?, same, Ne.symm same]

/-- A map of entries with different names finds each of them. -/
theorem get?_ofList {entries : Entries α} (distinct : (entries.map Prod.fst).Nodup)
    (name : String)
    : (ofList entries).get? name = entries.get? name := by
  rw [ofList, get?_foldl_insert distinct, get?_empty, Option.or_none]

/-- Inserting several entries adds their names, and no others. -/
theorem mem_names_foldl_insert (entries : Entries α) (map : NameMap α) (name : String)
    : name ∈ NameMap.names (entries.foldl (fun map entry => map.insert entry.1 entry.2) map)
      ↔ name ∈ entries.map Prod.fst ∨ name ∈ map.names := by
  induction entries generalizing map with
  | nil => simp
  | cons entry rest ih =>
      have own : name ∈ (map.insert entry.1 entry.2).names ↔ name = entry.1 ∨ name ∈ map.names := by
        rw [mem_names_iff, mem_names_iff, get?_insert]
        split <;> simp [*]
      rw [List.foldl_cons, ih, own, List.map_cons, List.mem_cons, or_left_comm, or_assoc]

/-- The names of a map are those of the entries that it is made from, repeated or not. -/
theorem mem_names_ofList (entries : Entries α) (name : String)
    : name ∈ (ofList entries).names ↔ name ∈ entries.map Prod.fst := by
  rw [ofList, mem_names_foldl_insert, or_iff_left (by simp [names, empty])]

/-- Without values there are only names. -/
theorem eq_of_mem_names_iff {left right : NameMap Unit}
    (same : ∀ name, name ∈ left.names ↔ name ∈ right.names)
    : left = right := by
  apply ext_get?
  intro name
  have found := same name
  rw [mem_names_iff, mem_names_iff] at found
  revert found
  cases left.get? name <;> cases right.get? name <;> simp

/-- A map is made again from its own entries. -/
@[simp] theorem ofList_entries (map : NameMap α) : ofList map.entries = map :=
  ext_get? (fun name => get?_ofList map.nodup_names name)

/-- A map is empty when nothing is found in it. -/
theorem isEmpty_iff (map : NameMap α) : map.isEmpty = true ↔ ∀ name, map.get? name = none := by
  constructor
  · intro none_left name
    have nothing : map.entries = [] := by simpa [isEmpty] using none_left
    simp [get?, nothing, Entries.get?]
  · intro absent
    have same : map = empty := ext_get? (by simpa using absent)
    subst same
    rfl

end NameMap

end QualifierBindings
