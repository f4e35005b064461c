import SeriesCatalog.Proofs.Building
import SeriesCatalog.Proofs.Calls

/-! # Tables keep their seeds

Whatever calls a schema has seen and whatever the stores answered, each of its tables has all that
its seed says: a store adds to a seed and overrides nothing of it.
-/

namespace SeriesCatalog

/-- The table has all that the seed says. If no source had a part in it, it has nothing else. -/
structure Table.KeepsSeed (t : Table) (name : String) (seed : TableSeed)
    (database : Option String) : Prop where
  named : name ≠ ""
  dataSource : t.dataSource = name
  timestamp : t.timestamp = seed.timestamp.getD "__time"
  columns : ∀ column type, seed.metadata.columns.get? column = some type →
    t.columns.get? column = some type
  metrics : ∀ metric ∈ seed.metadata.metrics.toList, metric ∈ t.metrics.toList
  intervals : ∀ given, seed.metadata.intervals = some given → t.intervals = given
  exact : seed.discover = false ∨ database = none →
    t.columns = seed.metadata.columns ∧ t.metrics = seed.metadata.metrics
  canonical : ∀ i ∈ t.intervals, i.start.offset = 0 ∧ i.stop.offset = 0 ∧
    i.start.instant ≤ i.stop.instant

namespace Schema

theorem build_keeps_seed {s : Schema} {store : Store} {name : String} {seed : TableSeed}
    {t : Table} (built : (s.build store name seed).result = .ok t) :
    t.KeepsSeed name seed s.database := by
  obtain ⟨completed, completion, named, canonical, rfl⟩ := build_completed built
  exact
    { named := named
      dataSource := rfl
      timestamp := rfl
      columns := fun _ _ known => completion.keeps_column known
      metrics := fun _ known => completion.keeps_metric known
      intervals := fun given known => by
        simp only [completion.keeps_intervals known, Option.getD_some]
      exact := by
        intro unasked
        -- Either way no source is asked, and the metadata stays as the seed has it.
        have sourceless : s.asked store seed = none := by
          rcases unasked with unasked | sourceless
          · simp [asked, unasked]
          · simp [asked, Schema.source, sourceless]
        rw [sourceless] at completion
        cases completion
        exact ⟨rfl, rfl⟩
      canonical := by
        intro i member
        obtain ⟨start, stop⟩ := Interval.isCanonical_iff.1 (canonical i member)
        exact ⟨start, stop, i.start_le_stop⟩ }

/-- Each table has a seed that was given for its name, and keeps it. -/
def KeepsSeeds (given : String → TableSeed → Prop) (s : Schema) : Prop :=
  ∀ name entry, s.entry? name = some entry →
    given name entry.seed ∧ entry.table.KeepsSeed name entry.seed s.database

theorem new_keepsSeeds (given : String → TableSeed → Prop) (name : String)
    (database : Option String) : (new name database).KeepsSeeds given := by
  intro other entry found
  cases found

theorem register_keepsSeeds {given : String → TableSeed → Prop} {s : Schema} {store : Store}
    {name : String} {seed : TableSeed} {table : Table} (kept : s.KeepsSeeds given)
    (allowed : given name seed) (built : (s.build store name seed).result = .ok table) :
    (s.register name seed table).1.KeepsSeeds given := by
  intro other entry found
  rw [entry?_register] at found
  split at found
  · rename_i same
    subst same
    cases found
    have keeps := build_keeps_seed built
    exact ⟨allowed, keeps⟩
  · exact kept other entry found

theorem Registers.keepsSeeds {allowed given : String → TableSeed → Prop} {first s : Schema}
    (registered : Registers allowed first s)
    (each : ∀ name seed, allowed name seed → given name seed) (kept : first.KeepsSeeds given) :
    s.KeepsSeeds given := by
  induction registered with
  | none => exact kept
  | more _ given built ih => exact register_keepsSeeds ih (each _ _ given) built

/-- After a call the seeds are those from before it and those that it hands over. -/
theorem call_keepsSeeds {given : String → TableSeed → Prop} {s : Schema} (c : Call)
    (kept : s.KeepsSeeds given) :
    (s.call c).KeepsSeeds fun name seed => given name seed ∨ c.Hands name seed := by
  refine (call_registers s c).keepsSeeds ?_ ?_
  · rintro name seed (handed | ⟨entry, found, rfl⟩)
    · exact .inr handed
    · exact .inl (kept name entry found).1
  · intro name entry found
    obtain ⟨known, keeps⟩ := kept name entry found
    exact ⟨.inl known, keeps⟩

theorem run_keepsSeeds {given : String → TableSeed → Prop} {s : Schema} (calls : List Call)
    (kept : s.KeepsSeeds given) :
    (s.run calls).KeepsSeeds fun name seed =>
      given name seed ∨ ∃ c ∈ calls, c.Hands name seed := by
  induction calls generalizing s given with
  | nil =>
    intro name entry found
    obtain ⟨known, keeps⟩ := kept name entry found
    exact ⟨.inl known, keeps⟩
  | cons c rest ih =>
    intro name entry found
    obtain ⟨known, keeps⟩ := ih (call_keepsSeeds c kept) name entry found
    refine ⟨?_, keeps⟩
    rcases known with (known | handed) | ⟨later, member, handed⟩
    · exact .inl known
    · exact .inr ⟨c, List.mem_cons_self, handed⟩
    · exact .inr ⟨later, List.mem_cons_of_mem _ member, handed⟩

/-- Every entry of a schema that calls can lead to has a seed that was given for its name, and its
table keeps that seed. -/
theorem run_entry_keeps_seed {origin : Origin} {start : Schema}
    (opened : origin.schema.result = .ok start) (calls : List Call) {name : String}
    {entry : Entry} (found : entry? (start.run calls) name = some entry) :
    (origin.Hands name entry.seed ∨ ∃ c ∈ calls, c.Hands name entry.seed) ∧
      entry.table.KeepsSeed name entry.seed (start.run calls).database := by
  obtain ⟨title, database, registered⟩ := origin_registers opened
  have kept := registered.keepsSeeds (fun _ _ handed => handed) (new_keepsSeeds _ title database)
  exact run_keepsSeeds calls kept name entry found

/-- The table is added, is not there any more for a refresh, and is known to a discovery. -/
def salesCalls : List Call :=
  [.add .sales "sales" .sales, .refresh (.failing .unreachable) "sales", .discover .sales none]

theorem sales_keep_seed :
    ∃ entry, entry? ((new "shop" (some "db")).run salesCalls) "sales" = some entry ∧
      entry.seed = .sales ∧
      entry.table.KeepsSeed "sales" entry.seed
        ((new "shop" (some "db")).run salesCalls).database := by
  have registered := Option.map_eq_some_iff (f := Entry.seed) (b := .sales)
    (x := entry? ((new "shop" (some "db")).run salesCalls) "sales")
  obtain ⟨entry, found, same⟩ := registered.1 (by decide +kernel)
  have opened : (Origin.new "shop" (some "db")).schema.result = .ok (new "shop" (some "db")) := rfl
  exact ⟨entry, found, same, (run_entry_keeps_seed opened salesCalls found).2⟩

end Schema

end SeriesCatalog
