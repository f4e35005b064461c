import Mathlib.Data.List.Nodup
import SeriesCatalog.NameMap

/-! # Laws of maps and sets of names

What a look-up gives after each operation. The order of the entries makes a map equal to the list
of what its look-ups give, so these laws are all that later proofs use.
-/

namespace SeriesCatalog

/-- Among values with distinct names, a search finds the one value of a name. -/
theorem find?_name_iff {α : Type} {nameOf : α → String} {values : List α} {name : String}
    {value : α} (distinct : (values.map nameOf).Nodup) :
    values.find? (nameOf · == name) = some value ↔ value ∈ values ∧ nameOf value = name := by
  constructor
  · intro found
    exact ⟨List.mem_of_find?_eq_some found, by simpa using List.find?_some found⟩
  · rintro ⟨member, rfl⟩
    obtain ⟨first, found⟩ : ∃ first, values.find? (nameOf · == nameOf value) = some first :=
      Option.isSome_iff_exists.1 (List.find?_isSome.2 ⟨value, member, beq_self_eq_true _⟩)
    have same : nameOf first = nameOf value := by simpa using List.find?_some found
    rw [found, List.inj_on_of_nodup_map distinct (List.mem_of_find?_eq_some found) member same]

/-- Among values in order, a search finds the one that comes before all others it could find. -/
theorem find?_first {α : Type} {R : α → α → Prop} {values : List α} {p : α → Bool} {value : α}
    (sorted : values.Pairwise R) (found : values.find? p = some value) :
    ∀ other ∈ values, p other = true → other = value ∨ R value other := by
  obtain ⟨-, before, after, rfl, skipped⟩ := List.find?_eq_some_iff_append.1 found
  obtain ⟨-, tail, -⟩ := List.pairwise_append.1 sorted
  intro other member wanted
  rcases List.mem_append.1 member with early | late
  · have unwanted := skipped other early
    simp [wanted] at unwanted
  · exact (List.mem_cons.1 late).imp_right ((List.pairwise_cons.1 tail).1 other)

namespace NameMap

variable {α : Type}

theorem lookup_place (name other : String) (value : α) (entries : List (String × α)) :
    lookup other (place name value entries) =
      if other = name then some value else lookup other entries := by
  induction entries with
  | nil => simp only [place, lookup]
  | cons head rest ih =>
    obtain ⟨key, previous⟩ := head
    by_cases less : name < key
    · simp only [place, if_pos less, lookup]
    · by_cases same : name = key
      · subst same
        simp only [place, if_neg less, if_true, lookup]
        split <;> rfl
      · simp only [place, if_neg less, if_neg same, lookup, ih]
        by_cases here : other = key
        · have different : ¬ other = name := fun equal => same (equal ▸ here)
          simp only [if_pos here, if_neg different]
        · simp only [if_neg here]

theorem mem_of_lookup {name : String} {value : α} {entries : List (String × α)}
    (found : lookup name entries = some value) : (name, value) ∈ entries := by
  induction entries with
  | nil => simp [lookup] at found
  | cons head rest ih =>
    obtain ⟨key, previous⟩ := head
    simp only [lookup] at found
    split at found
    · rename_i same
      cases found
      exact same ▸ List.mem_cons_self
    · exact List.mem_cons_of_mem _ (ih found)

theorem lookup_of_mem {name : String} {value : α} {entries : List (String × α)}
    (sorted : entries.Pairwise (fun a b => a.1 < b.1)) (member : (name, value) ∈ entries) :
    lookup name entries = some value := by
  induction entries with
  | nil => simp at member
  | cons head rest ih =>
    obtain ⟨key, previous⟩ := head
    obtain ⟨first, tail⟩ := List.pairwise_cons.1 sorted
    rcases List.mem_cons.1 member with same | later
    · cases same
      simp only [lookup, if_true]
    · have less : key < name := first _ later
      have different : name ≠ key := fun equal => String.lt_irrefl key (equal ▸ less)
      simp only [lookup, if_neg different, ih tail later]

@[simp] theorem keys_empty : (empty : NameMap α).keys = [] := rfl

theorem get?_insert (m : NameMap α) (name other : String) (value : α) :
    (m.insert name value).get? other = if other = name then some value else m.get? other :=
  lookup_place name other value m.entries

theorem get?_eq_some_iff {m : NameMap α} {name : String} {value : α} :
    m.get? name = some value ↔ (name, value) ∈ m.entries :=
  ⟨mem_of_lookup, lookup_of_mem m.sorted⟩

theorem mem_keys_iff {m : NameMap α} {name : String} :
    name ∈ m.keys ↔ ∃ value, m.get? name = some value := by
  constructor
  · intro member
    obtain ⟨⟨key, value⟩, found, same⟩ := List.mem_map.1 member
    cases same
    exact ⟨value, get?_eq_some_iff.2 found⟩
  · rintro ⟨value, found⟩
    exact List.mem_map.2 ⟨_, get?_eq_some_iff.1 found, rfl⟩

theorem contains_iff_mem_keys {m : NameMap α} {name : String} :
    m.contains name = true ↔ name ∈ m.keys := by
  rw [mem_keys_iff, contains, Option.isSome_iff_exists]

theorem contains_eq_false_iff {m : NameMap α} {name : String} :
    m.contains name = false ↔ name ∉ m.keys := by
  rw [← contains_iff_mem_keys, Bool.not_eq_true]

theorem mem_keys_insert {m : NameMap α} {name other : String} {value : α} :
    other ∈ (m.insert name value).keys ↔ other = name ∨ other ∈ m.keys := by
  simp only [mem_keys_iff, get?_insert]
  by_cases same : other = name
  · simp only [same, if_true, true_or, Option.some.injEq, exists_eq']
  · simp only [same, if_false, false_or]

theorem keys_sorted (m : NameMap α) : m.keys.Pairwise (· < ·) :=
  List.pairwise_map.2 m.sorted

theorem keys_nodup (m : NameMap α) : m.keys.Nodup := by
  refine List.Pairwise.imp ?_ m.keys_sorted
  intro first second less equal
  exact String.lt_irrefl second (equal ▸ less)

/-- A name that is new to a map comes to its keys and changes nothing else about them. -/
theorem keys_insert_perm {m : NameMap α} {name : String} (value : α) (fresh : name ∉ m.keys) :
    (m.insert name value).keys.Perm (name :: m.keys) := by
  have distinct : (name :: m.keys).Nodup := List.nodup_cons.2 ⟨fresh, m.keys_nodup⟩
  refine (List.perm_ext_iff_of_nodup (keys_nodup _) distinct).2 fun other => ?_
  rw [mem_keys_insert, List.mem_cons]

theorem ext {m m' : NameMap α} (same : m.entries = m'.entries) : m = m' := by
  cases m
  cases m'
  cases same
  rfl

theorem entries_nodup (m : NameMap α) : m.entries.Nodup := by
  refine List.Pairwise.imp ?_ m.sorted
  intro first second less equal
  exact String.lt_irrefl second.1 (equal ▸ less)

theorem ext_get? {m m' : NameMap α} (same : ∀ name, m.get? name = m'.get? name) : m = m' := by
  have members : ∀ entry, entry ∈ m.entries ↔ entry ∈ m'.entries := by
    rintro ⟨name, value⟩
    rw [← get?_eq_some_iff, ← get?_eq_some_iff, same]
  have perm : m.entries.Perm m'.entries :=
    (List.perm_ext_iff_of_nodup m.entries_nodup m'.entries_nodup).2 members
  apply ext
  refine perm.eq_of_pairwise ?_ m.sorted m'.sorted
  intro first second _ _ less more
  exact absurd less (String.lt_asymm more)

theorem place_last {name : String} {value : α} {entries : List (String × α)}
    (last : ∀ entry ∈ entries, entry.1 < name) :
    place name value entries = entries ++ [(name, value)] := by
  induction entries with
  | nil => rfl
  | cons head rest ih =>
    obtain ⟨less, later⟩ := List.forall_mem_cons.1 last
    have different : name ≠ head.1 := fun same => String.lt_irrefl _ (same ▸ less)
    rw [place, if_neg (String.lt_asymm less), if_neg different, ih later]
    rfl

theorem entries_foldl_insert {m : NameMap α} {later : List (String × α)}
    (sorted : (m.entries ++ later).Pairwise fun a b => a.1 < b.1) :
    (later.foldl (fun m entry => m.insert entry.1 entry.2) m).entries = m.entries ++ later := by
  induction later generalizing m with
  | nil => rw [List.foldl_nil, List.append_nil]
  | cons entry later ih =>
    have last : ∀ other ∈ m.entries, other.1 < entry.1 := by
      intro other member
      exact (List.pairwise_append.1 sorted).2.2 other member entry List.mem_cons_self
    have placed : (m.insert entry.1 entry.2).entries = m.entries ++ [entry] := place_last last
    have sorted' : ((m.insert entry.1 entry.2).entries ++ later).Pairwise fun a b => a.1 < b.1 := by
      rwa [placed, List.append_assoc]
    rw [List.foldl_cons, ih sorted', placed, List.append_assoc]
    rfl

theorem ofList_entries (m : NameMap α) : ofList m.entries = m := by
  have same : (ofList m.entries).entries = m.entries :=
    entries_foldl_insert (m := empty) m.sorted
  exact NameMap.ext same

theorem get?_insertNew (m : NameMap α) (name other : String) (value : α) :
    (m.insertNew name value).get? other =
      (m.get? other).or (if other = name then some value else none) := by
  cases found : m.get? name with
  | some previous =>
    have present : m.contains name = true := by simp only [contains, found, Option.isSome_some]
    rw [insertNew, if_pos present]
    by_cases same : other = name
    · subst same
      simp only [found, Option.some_or]
    · simp only [if_neg same, Option.or_none]
  | none =>
    have absent : ¬ m.contains name = true := by simp [contains, found]
    rw [insertNew, if_neg absent, get?_insert]
    by_cases same : other = name
    · subst same
      simp only [if_true, found, Option.none_or]
    · simp only [if_neg same, Option.or_none]

end NameMap

namespace NameSet

theorem mem_add {s : NameSet} {name other : String} :
    other ∈ (s.add name).toList ↔ other = name ∨ other ∈ s.toList :=
  NameMap.mem_keys_insert

theorem mem_addAll {s : NameSet} {names : List String} {other : String} :
    other ∈ (s.addAll names).toList ↔ other ∈ s.toList ∨ other ∈ names := by
  induction names generalizing s with
  | nil => simp [addAll]
  | cons name rest ih =>
    have step : other ∈ (s.addAll (name :: rest)).toList ↔
        other ∈ (s.add name).toList ∨ other ∈ rest := ih
    rw [step, mem_add, List.mem_cons, or_comm (a := other = name), or_assoc]

theorem mem_ofNames {names : List String} {other : String} :
    other ∈ (ofNames names).toList ↔ other ∈ names := by
  rw [ofNames, mem_addAll]
  simp [toList]

theorem get?_eq_some_iff {s : NameSet} {name : String} :
    s.get? name = some () ↔ name ∈ s.toList := by
  rw [toList, NameMap.mem_keys_iff]
  constructor
  · intro found
    exact ⟨(), found⟩
  · rintro ⟨⟨⟩, found⟩
    exact found

theorem ext {s s' : NameSet} (same : ∀ name, name ∈ s.toList ↔ name ∈ s'.toList) : s = s' := by
  apply NameMap.ext_get?
  intro name
  apply Option.ext
  rintro ⟨⟩
  rw [get?_eq_some_iff, get?_eq_some_iff, same]

end NameSet

end SeriesCatalog
