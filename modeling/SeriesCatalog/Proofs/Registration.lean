import SeriesCatalog.Proofs.Building
import SeriesCatalog.Proofs.Calls

/-! # Registering one table

A request for one table either registers it, and touches nothing else of the schema, or it is
refused and leaves the schema as it was. The reasons for a refusal are those for which the table
cannot be built, whatever step they occur in, and for a refresh also that there is no such table.
-/

namespace SeriesCatalog

/-- A request to register one table. -/
inductive Registration where
  | add (seed : TableSeed)
  | refresh

/-- The seed that the request builds the table from, if there is one. -/
def Registration.seed? (s : Schema) (name : String) : Registration → Option TableSeed
  | .add seed => some seed
  | .refresh => (s.entry? name).map Entry.seed

namespace Schema

/-- Carries out a request for the table of a name. -/
def attempt (s : Schema) (store : Store) (name : String) :
    Registration → Schema × Exchange CatalogError Entry
  | .add seed => s.add store name seed
  | .refresh => s.refresh store name

/-- Why a request is refused. -/
inductive Refusal (s : Schema) (store : Store) (name : String) (request : Registration) :
    CatalogError → Prop where
  | unregistered :
      request.seed? s name = none → Refusal s store name request (s.notFound name)
  | unbuilt {seed : TableSeed} {e : CatalogError} :
      request.seed? s name = some seed → BuildFailure s store name seed e →
      Refusal s store name request e

theorem attempt_seeded {s : Schema} {name : String} {request : Registration} {seed : TableSeed}
    (seeded : request.seed? s name = some seed) (store : Store) :
    s.attempt store name request = s.add store name seed := by
  cases request with
  | add given =>
    cases seeded
    rfl
  | refresh =>
    obtain ⟨entry, found, rfl⟩ := Option.map_eq_some_iff.1 seeded
    simp only [attempt, refresh, found]

theorem attempt_unseeded {s : Schema} {name : String} {request : Registration}
    (unseeded : request.seed? s name = none) (store : Store) :
    s.attempt store name request = (s, .fail (s.notFound name)) := by
  cases request with
  | add given => cases unseeded
  | refresh =>
    have absent : s.entry? name = none := Option.map_eq_none_iff.1 unseeded
    simp only [attempt, refresh, absent]

theorem attempt_error_iff {s : Schema} {store : Store} {name : String} {request : Registration}
    {e : CatalogError} :
    (s.attempt store name request).2.result = .error e ↔ Refusal s store name request e := by
  constructor
  · intro refused
    cases seeded : request.seed? s name with
    | none =>
      rw [attempt_unseeded seeded] at refused
      cases refused
      exact .unregistered seeded
    | some seed =>
      rw [attempt_seeded seeded] at refused
      exact .unbuilt seeded (build_error_iff.1 (add_error refused))
  · intro refusal
    cases refusal with
    | unregistered unseeded =>
      rw [attempt_unseeded unseeded]
      rfl
    | unbuilt seeded failure => rw [attempt_seeded seeded, add_failed failure.result]

theorem attempt_refused {s : Schema} {store : Store} {name : String} {request : Registration}
    {e : CatalogError} (refusal : Refusal s store name request e) :
    (s.attempt store name request).1 = s := by
  cases refusal with
  | unregistered unseeded => rw [attempt_unseeded unseeded]
  | unbuilt seeded failure => rw [attempt_seeded seeded, add_failed failure.result]

theorem attempt_ok {s : Schema} {store : Store} {name : String} {request : Registration}
    {entry : Entry} (done : (s.attempt store name request).2.result = .ok entry) :
    ∃ seed table, request.seed? s name = some seed ∧
      (s.build store name seed).result = .ok table ∧ entry = ⟨seed, table, s.registrations⟩ ∧
      (s.attempt store name request).1 = (s.register name seed table).1 := by
  cases seeded : request.seed? s name with
  | none =>
    rw [attempt_unseeded seeded] at done
    cases done
  | some seed =>
    rw [attempt_seeded seeded] at done ⊢
    obtain ⟨table, built, same⟩ := add_ok done
    exact ⟨seed, table, rfl, built, same, by rw [add_built built]⟩

/-- A request that is refused, for whatever reason, leaves the schema with all its entries as it
was. A request that succeeds sets the entry of its name to what it returns and leaves all others. -/
theorem attempt_atomic (s : Schema) (store : Store) (name : String) (request : Registration) :
    (∀ e, (s.attempt store name request).2.result = .error e ↔
      Refusal s store name request e) ∧
    (∀ e, (s.attempt store name request).2.result = .error e →
      (s.attempt store name request).1 = s) ∧
    ∀ entry, (s.attempt store name request).2.result = .ok entry →
      entry? (s.attempt store name request).1 name = some entry ∧
        request.seed? s name = some entry.seed ∧ entry.table.dataSource = name ∧
        ∀ other, other ≠ name →
          entry? (s.attempt store name request).1 other = s.entry? other := by
  refine ⟨fun e => attempt_error_iff, fun e failed => ?_, fun entry done => ?_⟩
  · exact attempt_refused (attempt_error_iff.1 failed)
  · obtain ⟨seed, table, seeded, built, rfl, after⟩ := attempt_ok done
    obtain ⟨completed, -, -, -, rfl⟩ := build_completed built
    rw [after]
    refine ⟨?_, seeded, rfl, fun other different => ?_⟩
    · rw [entry?_register, if_pos rfl]
    · rw [entry?_register, if_neg different]

/-- A seed with an hour in a calendar that is an hour ahead of UTC. -/
def shiftedSeed : TableSeed :=
  ⟨⟨NameMap.empty, NameMap.empty,
    some [⟨⟨.atSecond 0 (by decide), 3600⟩, ⟨.atSecond 3600 (by decide), 3600⟩, by decide⟩]⟩,
    none, false⟩

theorem shop_attempts_atomic :
    (∃ e, (shop.attempt .sales "visits" (.add shiftedSeed)).2.result = .error e ∧
      Refusal shop .sales "visits" (.add shiftedSeed) e ∧
      (shop.attempt .sales "visits" (.add shiftedSeed)).1 = shop) ∧
    ∃ entry, (shop.attempt .sales "sales" .refresh).2.result = .ok entry ∧
      entry? (shop.attempt .sales "sales" .refresh).1 "sales" = some entry ∧
      Registration.seed? shop "sales" .refresh = some entry.seed := by
  constructor
  · have refused := attempt_atomic shop .sales "visits" (.add shiftedSeed)
    obtain ⟨e, failed⟩ := Outcome.exists_error
      (x := (shop.attempt .sales "visits" (.add shiftedSeed)).2.result) (by decide +kernel)
    exact ⟨e, failed, (refused.1 e).1 failed, refused.2.1 e failed⟩
  · obtain ⟨entry, done, -⟩ := Outcome.exists_ok_of_any
      (x := (shop.attempt .sales "sales" .refresh).2.result) (p := fun _ => true)
      (by decide +kernel)
    obtain ⟨set, seeded, -⟩ := (attempt_atomic shop .sales "sales" .refresh).2.2 entry done
    exact ⟨entry, done, set, seeded⟩

end Schema

end SeriesCatalog
