import Mathlib.Algebra.Group.Nat.Defs
import Mathlib.Data.List.Nodup
import SeriesCatalog.Plan

/-! # The numbers of clusters

A cluster takes its number from a counter of 32 bits and moves the counter on by one. After its last
number the counter starts over, so that clusters share a number if one is made that many clusters
after the other, or a multiple of that.
-/

namespace SeriesCatalog.Cluster

/-- The clusters that are made one after the other, each with a factory of its own. -/
def newAll (next : UInt32) : List TypeFactory → List Cluster
  | [] => []
  | factory :: rest => (new next factory).1 :: newAll (new next factory).2 rest

variable {next : UInt32} {factories : List TypeFactory} {i j : Nat}

theorem getElem?_newAll (next : UInt32) (factories : List TypeFactory) (index : Nat) :
    (newAll next factories)[index]? =
      factories[index]?.map fun factory => ⟨next + UInt32.ofNat index, factory⟩ := by
  induction factories generalizing next index with
  | nil => simp [newAll]
  | cons factory rest ih =>
    cases index with
    | zero => simp [newAll, new]
    | succ index =>
      have number : next + 1 + UInt32.ofNat index = next + UInt32.ofNat (index + 1) := by
        simp only [UInt32.ofNat_add, UInt32.add_assoc, UInt32.add_comm (UInt32.ofNat index)]
        rfl
      simp only [newAll, new, List.getElem?_cons_succ, ih, number]

theorem add_ofNat_eq_iff :
    next + UInt32.ofNat i = next + UInt32.ofNat j ↔ i % 2 ^ 32 = j % 2 ^ 32 := by
  rw [UInt32.add_right_inj, ← UInt32.toNat_inj, UInt32.toNat_ofNat', UInt32.toNat_ofNat']

theorem id_eq_iff {c d : Cluster} (first : (newAll next factories)[i]? = some c)
    (second : (newAll next factories)[j]? = some d) : c.id = d.id ↔ i % 2 ^ 32 = j % 2 ^ 32 := by
  rw [getElem?_newAll, Option.map_eq_some_iff] at first second
  obtain ⟨_, -, rfl⟩ := first
  obtain ⟨_, -, rfl⟩ := second
  exact add_ofNat_eq_iff

theorem ids_eq_iff (inside : i < factories.length) (inside' : j < factories.length) :
    ((newAll next factories).map Cluster.id)[i]? = ((newAll next factories).map Cluster.id)[j]? ↔
      i % 2 ^ 32 = j % 2 ^ 32 := by
  have number : ∀ index < factories.length,
      ((newAll next factories).map Cluster.id)[index]? = some (next + UInt32.ofNat index) := by
    intro index inside
    simp [getElem?_newAll, inside]
  rw [number i inside, number j inside', Option.some_inj, add_ofNat_eq_iff]

theorem length_newAll (next : UInt32) (factories : List TypeFactory) :
    (newAll next factories).length = factories.length := by
  induction factories generalizing next with
  | nil => rfl
  | cons factory rest ih => simp [newAll, ih]

/-- No number is used twice exactly if there are enough numbers for all clusters. -/
theorem ids_nodup_iff :
    ((newAll next factories).map Cluster.id).Nodup ↔ factories.length ≤ 2 ^ 32 := by
  rw [List.nodup_iff_getElem?_ne_getElem?]
  simp only [List.length_map, length_newAll]
  constructor
  · intro distinct
    by_contra many
    apply distinct 0 (2 ^ 32) (by omega) (by omega)
    exact (ids_eq_iff (by omega) (by omega)).2 (by simp)
  · intro few i j less inside same
    have wrapped := (ids_eq_iff (by omega) inside).1 same
    omega

/-- The clusters of a run have numbers of their own as long as there are enough. The nodes of two of
them have one number if and only if the counter went around between the clusters. -/
theorem nodes_told_apart_iff (factories : List TypeFactory) :
    (((newAll firstId factories).map Cluster.id).Nodup ↔ factories.length ≤ 2 ^ 32) ∧
      ∀ i j (m n : PlanNode), (newAll firstId factories)[i]? = some m.cluster →
        (newAll firstId factories)[j]? = some n.cluster →
        (m.cluster.id = n.cluster.id ↔ i % 2 ^ 32 = j % 2 ^ 32) := by
  constructor
  · exact ids_nodup_iff
  · intro i j m n first second
    exact id_eq_iff first second

/-- Scans of two clusters that are made one after the other. -/
theorem scans_told_apart :
    ((newAll firstId [.permissive, .permissive]).map Cluster.id).Nodup ∧
      (newAll firstId [.permissive, .permissive])[0]? = some ⟨1, .permissive⟩ ∧
      (newAll firstId [.permissive, .permissive])[1]? = some ⟨2, .permissive⟩ ∧
      (PlanNode.ofTable ⟨1, .permissive⟩ ⟨["sales"], ⟨[]⟩⟩).cluster.id ≠
        (PlanNode.ofTable ⟨2, .permissive⟩ ⟨["sales"], ⟨[]⟩⟩).cluster.id := by
  have apart := nodes_told_apart_iff [.permissive, .permissive]
  refine ⟨apart.1.2 (by decide), rfl, rfl, ?_⟩
  intro same
  have wrapped := (apart.2 0 1 (.ofTable ⟨1, .permissive⟩ ⟨["sales"], ⟨[]⟩⟩)
    (.ofTable ⟨2, .permissive⟩ ⟨["sales"], ⟨[]⟩⟩) rfl rfl).1 same
  omega

/-- A run that makes one cluster more than there are numbers ends with the number of its first. -/
theorem first_number_returns :
    ((newAll firstId (List.replicate (2 ^ 32 + 1) .permissive))[0]? = some ⟨1, .permissive⟩ ∧
      (newAll firstId (List.replicate (2 ^ 32 + 1) .permissive))[2 ^ 32]? = some ⟨1, .permissive⟩) ∧
    ¬ ((newAll firstId (List.replicate (2 ^ 32 + 1) .permissive)).map Cluster.id).Nodup := by
  refine ⟨⟨?_, ?_⟩, ?_⟩
  · rw [getElem?_newAll, List.getElem?_replicate, if_pos (by omega)]
    rfl
  · have wrapped : firstId + UInt32.ofNat (2 ^ 32) = 1 := by decide
    rw [getElem?_newAll, List.getElem?_replicate, if_pos (by omega), Option.map_some, wrapped]
  · rw [ids_nodup_iff, List.length_replicate]
    omega

end SeriesCatalog.Cluster
