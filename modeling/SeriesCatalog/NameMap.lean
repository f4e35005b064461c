/-! # Maps and sets of names

Finite maps from names to values, kept as lists in strictly increasing order of the names. Two
maps are equal exactly when they hold the same entries, and listing a map gives the order in
which names are shown. Names are ordered by code points, which is the order of their UTF-8 bytes.
-/

namespace SeriesCatalog

/-- A finite map from names to values. -/
structure NameMap (α : Type) where
  entries : List (String × α)
  /-- No two entries share a name, and they stand in order. -/
  sorted : entries.Pairwise (fun a b => a.1 < b.1)
  deriving DecidableEq

namespace NameMap

variable {α : Type}

def empty : NameMap α := ⟨[], .nil⟩

instance : Inhabited (NameMap α) := ⟨empty⟩

instance [Repr α] : Repr (NameMap α) := ⟨fun m n => reprPrec m.entries n⟩

/-- The entry that a list of entries holds for a name. -/
def lookup (name : String) : List (String × α) → Option α
  | [] => none
  | (other, value) :: rest => if name = other then some value else lookup name rest

/-- Puts an entry at its place in an ordered list, over an entry of the same name. -/
def place (name : String) (value : α) : List (String × α) → List (String × α)
  | [] => [(name, value)]
  | (other, previous) :: rest =>
    if name < other then (name, value) :: (other, previous) :: rest
    else if name = other then (name, value) :: rest
    else (other, previous) :: place name value rest

theorem mem_place {name : String} {value : α} {entries : List (String × α)}
    {entry : String × α} (h : entry ∈ place name value entries) :
    entry = (name, value) ∨ entry ∈ entries := by
  induction entries with
  | nil => simpa [place] using h
  | cons head rest ih =>
    obtain ⟨other, previous⟩ := head
    simp only [place] at h
    split at h
    · simpa using h
    · split at h
      · rcases List.mem_cons.1 h with h | h
        · exact .inl h
        · exact .inr (List.mem_cons_of_mem _ h)
      · rcases List.mem_cons.1 h with h | h
        · exact .inr (h ▸ List.mem_cons_self)
        · exact (ih h).imp_right (List.mem_cons_of_mem _)

theorem sorted_place {name : String} {value : α} {entries : List (String × α)}
    (h : entries.Pairwise (fun a b => a.1 < b.1)) :
    (place name value entries).Pairwise (fun a b => a.1 < b.1) := by
  induction entries with
  | nil => simp [place]
  | cons head rest ih =>
    obtain ⟨other, previous⟩ := head
    obtain ⟨first, tail⟩ := List.pairwise_cons.1 h
    simp only [place]
    split
    · rename_i less
      refine List.pairwise_cons.2 ⟨fun entry mem => ?_, h⟩
      rcases List.mem_cons.1 mem with rfl | mem
      · exact less
      · exact String.lt_trans less (first entry mem)
    · split
      · rename_i same
        subst same
        exact List.pairwise_cons.2 ⟨first, tail⟩
      · rename_i notLess different
        refine List.pairwise_cons.2 ⟨fun entry mem => ?_, ih tail⟩
        rcases mem_place mem with rfl | mem
        · by_cases less : other < name
          · exact less
          · exact absurd (String.le_antisymm (String.not_lt.1 less) (String.not_lt.1 notLess))
              different
        · exact first entry mem

def get? (m : NameMap α) (name : String) : Option α :=
  lookup name m.entries

def contains (m : NameMap α) (name : String) : Bool :=
  (m.get? name).isSome

/-- The map with an entry set, in place of an earlier one of that name. -/
def insert (m : NameMap α) (name : String) (value : α) : NameMap α :=
  ⟨place name value m.entries, sorted_place m.sorted⟩

/-- The map with an entry added, unless the name has one already. -/
def insertNew (m : NameMap α) (name : String) (value : α) : NameMap α :=
  if m.contains name then m else m.insert name value

/-- The map of a list of entries; of several entries of one name the last counts. -/
def ofList (entries : List (String × α)) : NameMap α :=
  entries.foldl (fun m entry => m.insert entry.1 entry.2) empty

def keys (m : NameMap α) : List String :=
  m.entries.map (·.1)

end NameMap

/-- A finite set of names. -/
abbrev NameSet := NameMap Unit

namespace NameSet

def toList (s : NameSet) : List String := s.keys

def add (s : NameSet) (name : String) : NameSet := s.insert name ()

def addAll (s : NameSet) (names : List String) : NameSet := names.foldl add s

def ofNames (names : List String) : NameSet := addAll NameMap.empty names

end NameSet

end SeriesCatalog
