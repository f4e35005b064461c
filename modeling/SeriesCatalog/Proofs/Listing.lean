import SeriesCatalog.Proofs.Loading
import SeriesCatalog.Proofs.NameOrder

/-! # The list of tables

The names of all tables are shown, in the order of their bytes: those of the catalog, and if the
tables of the store are discovered also those that the store lists. A failure on the way shows none
of them, not even those that were known before it.
-/

namespace SeriesCatalog.Program

variable {w : World} {settings : Settings} {discover : Bool}

def Discovers (settings : Settings) (discover : Bool) : Prop :=
  discover = true ∨ settings.catalogFile = none

def discovery (w : World) (settings : Settings) (start : Schema) :
    Schema × Exchange CatalogError (List String) :=
  start.discover (settings.access w.store) (some settings.timestamp)

/-- The schema whose tables are shown. -/
inductive Shows (w : World) (settings : Settings) (discover : Bool) (start : Schema) :
    Schema → Prop where
  | loaded : ¬ Discovers settings discover → Shows w settings discover start start
  | discovered {added : List String} : Discovers settings discover →
      (discovery w settings start).2.result = .ok added →
      Shows w settings discover start (discovery w settings start).1

theorem discovers_iff :
    (discover || settings.catalogFile.isNone) = true ↔ Discovers settings discover := by
  rw [Bool.or_eq_true, Option.isNone_iff_eq_none, Discovers]

theorem list_discovers (discovers : Discovers settings discover) (start : Schema) :
    list w settings start discover =
      ((discovery w settings start).2.mapError Failure.ofCatalogError).bind fun _ =>
        Exchange.pure
          (String.join ((discovery w settings start).1.tableNames.map (· ++ "\n"))) := by
  unfold list
  rw [if_pos (discovers_iff.2 discovers)]
  rfl

theorem list_loaded (loaded : ¬ Discovers settings discover) (start : Schema) :
    list w settings start discover =
      Exchange.pure (String.join (start.tableNames.map (· ++ "\n"))) := by
  unfold list
  rw [if_neg (mt discovers_iff.1 loaded)]
  rfl

theorem list_ok_iff {start : Schema} {output : String} :
    (list w settings start discover).result = .ok output ↔
      ∃ shown, Shows w settings discover start shown ∧
        output = String.join (shown.tableNames.map (· ++ "\n")) := by
  by_cases discovers : Discovers settings discover
  · rw [list_discovers discovers]
    constructor
    · intro done
      obtain ⟨added, found, same⟩ := Exchange.bind_result_ok done
      cases same
      exact ⟨_, .discovered discovers (Exchange.mapError_result_ok found), rfl⟩
    · rintro ⟨shown, shows, rfl⟩
      cases shows with
      | loaded loaded => exact absurd discovers loaded
      | discovered _ found =>
        rw [Exchange.bind_result, Exchange.mapError_result, found]
        rfl
  · rw [list_loaded discovers]
    constructor
    · intro done
      cases done
      exact ⟨start, .loaded discovers, rfl⟩
    · rintro ⟨shown, shows, rfl⟩
      cases shows with
      | loaded => rfl
      | discovered other => exact absurd other discovers

theorem access_names {store : Store} {listed : List String}
    (listing : (settings.access store).names = .ok listed) : store.names = .ok listed := by
  rcases access_cases settings store with same | ⟨failure, failing⟩
  · rw [same] at listing
    exact listing
  · rw [failing] at listing
    cases listing

namespace Shows

variable {start shown : Schema}

theorem mem_tableNames (shows : Shows w settings discover start shown)
    (sourced : start.database = some settings.database) {name : String} :
    name ∈ shown.tableNames ↔
      name ∈ start.tableNames ∨
        (Discovers settings discover ∧ ∃ listed, w.store.names = .ok listed ∧ name ∈ listed) := by
  cases shows with
  | loaded loaded => simp only [loaded, false_and, or_false]
  | discovered discovers found =>
    obtain ⟨listed, listing, rfl, extended, -⟩ := Schema.discover_ok sourced found
    have same := access_names listing
    rw [discovery, extended.tableNames name, List.mem_filter, decide_eq_true_iff]
    constructor
    · rintro (known | ⟨member, -⟩)
      · exact .inl known
      · exact .inr ⟨discovers, listed, same, member⟩
    · rintro (known | ⟨-, other, listingToo, member⟩)
      · exact .inl known
      · rw [same] at listingToo
        cases listingToo
        by_cases known : name ∈ start.tableNames
        · exact .inl known
        · exact .inr ⟨member, known⟩

theorem exists_iff {start : Schema} :
    (∃ shown, Shows w settings discover start shown) ↔
      (Discovers settings discover →
        ∃ added, (discovery w settings start).2.result = .ok added) := by
  constructor
  · rintro ⟨shown, shows⟩ discovers
    cases shows with
    | loaded loaded => exact absurd discovers loaded
    | discovered _ found => exact ⟨_, found⟩
  · intro finds
    by_cases discovers : Discovers settings discover
    · obtain ⟨added, found⟩ := finds discovers
      exact ⟨_, .discovered discovers found⟩
    · exact ⟨start, .loaded discovers⟩

end Shows

namespace Asked

theorem list_ok_iff (asked : Asked w settings (.list discover)) {output : String} :
    (execute w ⟨settings, .list discover⟩).result = .ok output ↔
      ∃ start shown, (loadSchema w settings).result = .ok start ∧
        Shows w settings discover start shown ∧
        output = String.join (shown.tableNames.map (· ++ "\n")) := by
  rw [asked.execute_list]
  constructor
  · intro done
    obtain ⟨start, loaded, listed⟩ := Exchange.bind_result_ok done
    obtain ⟨shown, shows, same⟩ := Program.list_ok_iff.1 listed
    exact ⟨start, shown, loaded, shows, same⟩
  · rintro ⟨start, shown, loaded, shows, rfl⟩
    rw [Exchange.bind_result, loaded]
    exact Program.list_ok_iff.2 ⟨shown, shows, rfl⟩

theorem list_queries (asked : Asked w settings (.list discover))
    (loaded : ¬ Discovers settings discover) :
    (execute w ⟨settings, .list discover⟩).queries = (loadSchema w settings).queries := by
  rw [asked.execute_list]
  exact Exchange.bind_queries_quiet fun start _ => by rw [list_loaded loaded]; rfl

end Asked

/-- The list succeeds exactly if the schema is loaded and, where tables are discovered, the
discovery succeeds. It then shows the names of the catalog and of the discovered tables, in the
order of their bytes, and otherwise nothing. A catalog that discovers nothing is listed without a
query. -/
theorem list_shows_known_tables (asked : Asked w settings (.list discover)) :
    ((run w).exit = 0 ↔
      ∃ start, (loadSchema w settings).result = .ok start ∧
        (Discovers settings discover →
          ∃ added, (discovery w settings start).2.result = .ok added)) ∧
    ((run w).exit = 0 →
      ∃ names : List String, (run w).output = String.join (names.map (· ++ "\n")) ∧
        names.Pairwise (fun a b => nameBytes a < nameBytes b) ∧
        ∀ name, name ∈ names ↔
          (∃ catalog, Reads w settings catalog ∧ ∃ d ∈ catalog.tables, d.dataSource = name) ∨
            (Discovers settings discover ∧
              ∃ listed, w.store.names = .ok listed ∧ name ∈ listed)) ∧
    ((run w).exit ≠ 0 → (run w).output = "") ∧
    ∀ catalog, Reads w settings catalog → (∀ d ∈ catalog.tables, d.discover = false) →
      discover = false → (run w).queries = [] := by
  refine ⟨?_, fun zero => ?_, output_of_failed, fun catalog reads declared quiet => ?_⟩
  · rw [asked.exit_eq_zero_iff]
    constructor
    · rintro ⟨output, done, -⟩
      obtain ⟨start, shown, loaded, shows, -⟩ := asked.list_ok_iff.1 done
      exact ⟨start, loaded, Shows.exists_iff.1 ⟨shown, shows⟩⟩
    · rintro ⟨start, loaded, finds⟩
      obtain ⟨shown, shows⟩ := Shows.exists_iff.2 finds
      have done := asked.list_ok_iff.2 ⟨start, shown, loaded, shows, rfl⟩
      exact ⟨_, done, by rw [asked.run_ok done]⟩
  · obtain ⟨output, done, same⟩ := asked.exit_eq_zero_iff.1 zero
    obtain ⟨start, shown, loaded, shows, rfl⟩ := asked.list_ok_iff.1 done
    obtain ⟨origin, opens, opened⟩ := loadSchema_ok loaded
    have sourced := (Schema.origin_named opened).2.trans opens.sourced
    refine ⟨shown.tableNames, same, NameMap.keys_sorted_bytes _, fun name => ?_⟩
    rw [shows.mem_tableNames sourced, Schema.origin_tableNames opened]
    simp only [opens.defines_iff]
    refine or_congr_left ⟨?_, ?_⟩
    · rintro ⟨d, ⟨catalog, reads, defined⟩, named⟩
      exact ⟨catalog, reads, d, defined, named⟩
    · rintro ⟨catalog, reads, d, defined, named⟩
      exact ⟨d, ⟨catalog, reads, defined⟩, named⟩
  · have loaded : ¬ Discovers settings discover := by
      obtain ⟨path, configured, -⟩ := reads
      rintro (asks | unconfigured)
      · rw [quiet] at asks
        cases asks
      · rw [configured] at unconfigured
        cases unconfigured
    rw [asked.queries, asked.list_queries loaded, loadSchema_quiet reads declared]

theorem shop_list_shown :
    Asked (shopWorld ["list", "--discover"]) shopSettings (.list true) ∧
      (run (shopWorld ["list", "--discover"])).exit = 0 ∧
      (run (shopWorld ["list", "--discover"])).output = "sales\nvisits\n" ∧
      ∃ names : List String, (run (shopWorld ["list", "--discover"])).output =
          String.join (names.map (· ++ "\n")) ∧
        names.Pairwise fun a b => nameBytes a < nameBytes b := by
  have asked : Asked (shopWorld ["list", "--discover"]) shopSettings (.list true) :=
    ⟨by decide +kernel, by decide +kernel⟩
  have shown : (run (shopWorld ["list", "--discover"])).exit = 0 ∧
      (run (shopWorld ["list", "--discover"])).output = "sales\nvisits\n" := by
    decide +kernel
  obtain ⟨-, listed, -⟩ := list_shows_known_tables asked
  obtain ⟨names, same, sorted, -⟩ := listed shown.1
  exact ⟨asked, shown.1, shown.2, names, same, sorted⟩

end SeriesCatalog.Program
