import Mathlib.Data.List.Induction
import SeriesCatalog.Catalog
import SeriesCatalog.Proofs.NameMap

/-! # The first fault of a catalog

A catalog is checked table by table, each after the ones before it. Either every definition fits
after the earlier ones, which does not depend on their order, or there is a first one that does not,
and the error is about the first thing that is wrong with it.
-/

namespace SeriesCatalog

/-- The timestamp and all metrics are declared as columns. -/
def TableDefinition.Declares (d : TableDefinition) : Prop :=
  d.timestamp.getD "__time" ∈ d.columns.keys ∧ ∀ metric ∈ d.metrics, metric ∈ d.columns.keys

/-- The same definition but for the order of its metrics. -/
structure TableDefinition.Reorders (d' d : TableDefinition) : Prop where
  metrics : d'.metrics.Perm d.metrics
  rest : d' = { d with metrics := d'.metrics }

namespace Catalog

/-- The same catalog but for the order of its tables and of the metrics of each. -/
structure Reorders (c' c : Catalog) : Prop where
  name : c'.name = c.name
  tables : ∃ moved, List.Forall₂ TableDefinition.Reorders c'.tables moved ∧ moved.Perm c.tables

/-- What each definition has to fulfil for itself. -/
def Sound (d : TableDefinition) : Prop :=
  Text.isAllBlank d.dataSource = false ∧ (d.discover = false → d.Declares)

/-- What a definition has to fulfil after earlier ones. -/
structure Fits (earlier : List TableDefinition) (d : TableDefinition) : Prop where
  sound : Sound d
  fresh : d.dataSource ∉ earlier.map (·.dataSource)

/-- Each definition fits after those before it. -/
def AllFit (tables : List TableDefinition) : Prop :=
  ∀ earlier d later, tables = earlier ++ d :: later → Fits earlier d

/-- The column that a definition lacks first, with the error for it. -/
inductive Undeclared (d : TableDefinition) : CatalogError → Prop where
  | timestamp : d.timestamp.getD "__time" ∉ d.columns.keys →
      Undeclared d (tableError d.dataSource
        ("timestamp column '" ++ d.timestamp.getD "__time" ++ "' is not declared in columns"))
  | metric {before after : List String} {metric : String} :
      d.timestamp.getD "__time" ∈ d.columns.keys → d.metrics = before ++ metric :: after →
      (∀ other ∈ before, other ∈ d.columns.keys) → metric ∉ d.columns.keys →
      Undeclared d (tableError d.dataSource
        ("metric '" ++ metric ++ "' is not declared in columns"))

/-- What is wrong first with a definition after earlier ones, with the error for it. -/
inductive Fault (earlier : List TableDefinition) (d : TableDefinition) : CatalogError → Prop where
  | blank : Text.isAllBlank d.dataSource = true →
      Fault earlier d (.invalidCatalog "Table data_source must not be empty")
  | repeated : Text.isAllBlank d.dataSource = false → d.dataSource ∈ earlier.map (·.dataSource) →
      Fault earlier d (.invalidCatalog ("Duplicate table: " ++ d.dataSource))
  | undeclared {e : CatalogError} : Text.isAllBlank d.dataSource = false →
      d.dataSource ∉ earlier.map (·.dataSource) → d.discover = false → Undeclared d e →
      Fault earlier d e

section

variable {d : TableDefinition} {earlier rest : List TableDefinition} {e : CatalogError}

theorem validateColumns_undeclared (missing : Undeclared d e) : validateColumns d = .error e := by
  unfold validateColumns
  cases missing with
  | timestamp absent => simp [defaultTimestamp, NameMap.contains_eq_false_iff.2 absent]
  | @metric before after metric present listed declared absent =>
    have first : (d.metrics.find? fun metric => !d.columns.contains metric) = some metric := by
      rw [List.find?_eq_some_iff_append]
      refine ⟨by simp [NameMap.contains_eq_false_iff.2 absent], before, after, listed, ?_⟩
      intro other member
      simp [NameMap.contains_iff_mem_keys.2 (declared other member)]
    simp [defaultTimestamp, NameMap.contains_iff_mem_keys.2 present, first]

theorem validateColumns_declares (declares : d.Declares) : validateColumns d = .ok () := by
  obtain ⟨timestamp, metrics⟩ := declares
  have none : (d.metrics.find? fun metric => !d.columns.contains metric) = none := by
    rw [List.find?_eq_none]
    intro metric member
    simp [NameMap.contains_iff_mem_keys.2 (metrics metric member)]
  simp [validateColumns, defaultTimestamp, NameMap.contains_iff_mem_keys.2 timestamp, none]

theorem declares_or_undeclared (d : TableDefinition) : d.Declares ∨ ∃ e, Undeclared d e := by
  by_cases timestamp : d.timestamp.getD "__time" ∈ d.columns.keys
  · cases found : d.metrics.find? (· ∉ d.columns.keys) with
    | none =>
      refine .inl ⟨timestamp, ?_⟩
      simpa using found
    | some metric =>
      obtain ⟨absent, before, after, listed, declared⟩ := List.find?_eq_some_iff_append.1 found
      refine .inr ⟨_, .metric timestamp listed ?_ (by simpa using absent)⟩
      simpa using declared
  · exact .inr ⟨_, .timestamp timestamp⟩

theorem fits_or_fault (earlier : List TableDefinition) (d : TableDefinition) :
    Fits earlier d ∨ ∃ e, Fault earlier d e := by
  cases visible : Text.isAllBlank d.dataSource with
  | true => exact .inr ⟨_, .blank visible⟩
  | false =>
    by_cases fresh : d.dataSource ∈ earlier.map (·.dataSource)
    · exact .inr ⟨_, .repeated visible fresh⟩
    · cases asked : d.discover with
      | true => exact .inl ⟨⟨visible, by simp [asked]⟩, fresh⟩
      | false =>
        rcases declares_or_undeclared d with declares | ⟨e, missing⟩
        · exact .inl ⟨⟨visible, fun _ => declares⟩, fresh⟩
        · exact .inr ⟨e, .undeclared visible fresh asked missing⟩

theorem validateTables_cons (seen : List String) (d : TableDefinition)
    (rest : List TableDefinition) :
    validateTables seen (d :: rest) =
      if Text.isAllBlank d.dataSource then
        .error (.invalidCatalog "Table data_source must not be empty")
      else if d.dataSource ∈ seen then
        .error (.invalidCatalog ("Duplicate table: " ++ d.dataSource))
      else
        match if d.discover then .ok () else validateColumns d with
        | .error e => .error e
        | .ok () => validateTables (d.dataSource :: seen) rest := by
  rw [validateTables]
  cases Text.isAllBlank d.dataSource with
  | true => rfl
  | false =>
    by_cases repeated : d.dataSource ∈ seen
    · simp only [if_pos repeated]
      rfl
    · simp only [if_neg repeated]
      cases d.discover with
      | true => rfl
      | false => cases validateColumns d <;> rfl

/-- The names that have been seen after some definitions. -/
def seen (earlier : List TableDefinition) : List String :=
  (earlier.map (·.dataSource)).reverse

@[simp] theorem seen_concat (earlier : List TableDefinition) (d : TableDefinition) :
    seen (earlier ++ [d]) = d.dataSource :: seen earlier := by
  simp [seen]

theorem Fits.step (fits : Fits earlier d) (rest : List TableDefinition) :
    validateTables (seen earlier) (d :: rest) = validateTables (seen (earlier ++ [d])) rest := by
  obtain ⟨⟨visible, declares⟩, fresh⟩ := fits
  have new : d.dataSource ∉ seen earlier := by simpa [seen] using fresh
  have columns : (if d.discover then .ok () else validateColumns d) = .ok () := by
    cases asked : d.discover with
    | true => rfl
    | false => exact validateColumns_declares (declares asked)
  simp [validateTables_cons, visible, new, columns]

theorem Fault.stop (fault : Fault earlier d e) (rest : List TableDefinition) :
    validateTables (seen earlier) (d :: rest) = .error e := by
  rw [validateTables_cons]
  cases fault with
  | blank visible => simp [visible]
  | repeated visible known =>
    have old : d.dataSource ∈ seen earlier := by simpa [seen] using known
    simp [visible, old]
  | undeclared visible fresh asked missing =>
    have new : d.dataSource ∉ seen earlier := by simpa [seen] using fresh
    simp [visible, new, asked, validateColumns_undeclared missing]

end

section

variable {d : TableDefinition} {earlier rest tables : List TableDefinition} {e : CatalogError}

theorem allFit_nil : AllFit [] := by
  intro earlier d later split
  simp at split

theorem allFit_concat : AllFit (tables ++ [d]) ↔ AllFit tables ∧ Fits tables d := by
  constructor
  · intro fit
    refine ⟨?_, fit tables d [] rfl⟩
    intro earlier other later split
    apply fit earlier other (later ++ [d])
    simp [split]
  · rintro ⟨fit, last⟩ earlier other later split
    rcases List.eq_nil_or_concat later with rfl | ⟨later, final, rfl⟩
    · obtain ⟨rfl, same⟩ := List.append_inj' split rfl
      cases same
      exact last
    · rw [List.concat_eq_append, ← List.cons_append, ← List.append_assoc] at split
      exact fit earlier other later (List.append_inj_left' split rfl)

theorem AllFit.run (fit : AllFit tables) (rest : List TableDefinition) :
    validateTables [] (tables ++ rest) = validateTables (seen tables) rest := by
  induction tables using List.reverseRecOn generalizing rest with
  | nil => rfl
  | append_singleton tables d ih =>
    obtain ⟨before, last⟩ := allFit_concat.1 fit
    rw [List.append_assoc, List.singleton_append, ih before, last.step]

theorem allFit_or_fault (tables : List TableDefinition) :
    AllFit tables ∨ ∃ earlier d later e,
      tables = earlier ++ d :: later ∧ AllFit earlier ∧ Fault earlier d e := by
  induction tables using List.reverseRecOn with
  | nil => exact .inl allFit_nil
  | append_singleton tables d ih =>
    rcases ih with fit | ⟨earlier, other, later, e, rfl, fit, fault⟩
    · rcases fits_or_fault tables d with last | ⟨e, fault⟩
      · exact .inl (allFit_concat.2 ⟨fit, last⟩)
      · exact .inr ⟨tables, d, [], e, rfl, fit, fault⟩
    · refine .inr ⟨earlier, other, later ++ [d], e, ?_, fit, fault⟩
      simp

theorem allFit_iff :
    AllFit tables ↔ (tables.map (·.dataSource)).Nodup ∧ ∀ d ∈ tables, Sound d := by
  induction tables using List.reverseRecOn with
  | nil => simp [allFit_nil]
  | append_singleton tables d ih =>
    have distinct : ((tables ++ [d]).map (·.dataSource)).Nodup ↔
        (tables.map (·.dataSource)).Nodup ∧ d.dataSource ∉ tables.map (·.dataSource) := by
      rw [List.map_append, List.map_singleton, List.nodup_append_comm, List.singleton_append,
        List.nodup_cons, and_comm]
    rw [allFit_concat, ih, distinct, List.forall_mem_append, List.forall_mem_singleton]
    constructor
    · rintro ⟨⟨names, sound⟩, last⟩
      exact ⟨⟨names, last.fresh⟩, sound, last.sound⟩
    · rintro ⟨⟨names, fresh⟩, sound, last⟩
      exact ⟨⟨names, sound⟩, last, fresh⟩

theorem validateTables_ok_iff : validateTables [] tables = .ok () ↔ AllFit tables := by
  constructor
  · intro valid
    rcases allFit_or_fault tables with fit | ⟨earlier, d, later, e, rfl, fit, fault⟩
    · exact fit
    · rw [fit.run, fault.stop] at valid
      cases valid
  · intro fit
    simpa [validateTables] using fit.run []

theorem validateTables_error_iff :
    validateTables [] tables = .error e ↔
      ∃ earlier d later, tables = earlier ++ d :: later ∧ AllFit earlier ∧ Fault earlier d e := by
  constructor
  · intro failed
    rcases allFit_or_fault tables with fit | ⟨earlier, d, later, reason, rfl, fit, fault⟩
    · rw [validateTables_ok_iff.2 fit] at failed
      cases failed
    · rw [fit.run, fault.stop] at failed
      cases failed
      exact ⟨earlier, d, later, rfl, fit, fault⟩
  · rintro ⟨earlier, d, later, rfl, fit, fault⟩
    rw [fit.run, fault.stop]

end

section

variable {c : Catalog} {e : CatalogError}

theorem validate_ok_iff :
    c.validate = .ok () ↔
      Text.isAllBlank c.name = false ∧ (c.tables.map (·.dataSource)).Nodup ∧
        ∀ d ∈ c.tables, Sound d := by
  rw [← allFit_iff, ← validateTables_ok_iff, validate]
  cases Text.isAllBlank c.name with
  | true => simp
  | false => simp

theorem validate_error_iff :
    c.validate = .error e ↔
      (Text.isAllBlank c.name = true ∧ e = .invalidCatalog "Catalog name must not be empty") ∨
        (Text.isAllBlank c.name = false ∧ ∃ earlier d later,
          c.tables = earlier ++ d :: later ∧ AllFit earlier ∧ Fault earlier d e) := by
  rw [← validateTables_error_iff, validate]
  cases Text.isAllBlank c.name with
  | true => simp [eq_comm]
  | false => simp

theorem Undeclared.invalid {d : TableDefinition} (missing : Undeclared d e) :
    ∃ reason, e = .invalidCatalog reason := by
  cases missing <;> exact ⟨_, rfl⟩

theorem validate_error (failed : c.validate = .error e) : ∃ reason, e = .invalidCatalog reason := by
  rcases validate_error_iff.1 failed with ⟨-, rfl⟩ | ⟨-, earlier, d, later, -, -, fault⟩
  · exact ⟨_, rfl⟩
  · cases fault with
    | blank | repeated => exact ⟨_, rfl⟩
    | undeclared _ _ _ missing => exact missing.invalid

theorem sound_reorders {d' d : TableDefinition} (moved : d'.Reorders d) : Sound d' ↔ Sound d := by
  obtain ⟨perm, rest⟩ := moved
  rw [rest]
  simp [Sound, TableDefinition.Declares, perm.mem_iff]

theorem sounds_reorder {tables' tables : List TableDefinition}
    (moved : List.Forall₂ TableDefinition.Reorders tables' tables) :
    tables'.map (·.dataSource) = tables.map (·.dataSource) ∧
      ((∀ d ∈ tables', Sound d) ↔ ∀ d ∈ tables, Sound d) := by
  induction moved with
  | nil => simp
  | @cons d' d _ _ first _ ih =>
    have name : d'.dataSource = d.dataSource := by rw [first.rest]
    simp [ih, sound_reorders first, name]

theorem validate_reorders {c' : Catalog} (moved : c'.Reorders c) :
    c'.validate = .ok () ↔ c.validate = .ok () := by
  obtain ⟨name, tables, alike, perm⟩ := moved
  obtain ⟨names, sounds⟩ := sounds_reorder alike
  rw [validate_ok_iff, validate_ok_iff, name, names, sounds, (perm.map _).nodup_iff]
  simp only [perm.mem_iff]

end

/-- A catalog is valid exactly if its names are visible, its tables distinct, and those that are not
discovered declare what they need. Otherwise the error is about the first definition that does not
fit after the earlier ones. So whether the catalog is valid does not depend on any order. -/
theorem validate_reports_first_fault (c : Catalog) :
    (c.validate = .ok () ↔
      Text.isAllBlank c.name = false ∧
        (∀ d ∈ c.tables, Text.isAllBlank d.dataSource = false) ∧
        (c.tables.map (·.dataSource)).Nodup ∧
        ∀ d ∈ c.tables, d.discover = false → d.Declares) ∧
    (∀ e, c.validate = .error e ↔
      (Text.isAllBlank c.name = true ∧ e = .invalidCatalog "Catalog name must not be empty") ∨
        (Text.isAllBlank c.name = false ∧ ∃ earlier d later,
          c.tables = earlier ++ d :: later ∧ AllFit earlier ∧ Fault earlier d e)) ∧
    ∀ c' : Catalog, c'.Reorders c → (c'.validate = .ok () ↔ c.validate = .ok ()) := by
  refine ⟨?_, fun e => validate_error_iff, fun c' moved => validate_reorders moved⟩
  rw [validate_ok_iff]
  constructor
  · rintro ⟨name, distinct, sound⟩
    exact ⟨name, fun d member => (sound d member).1, distinct, fun d member => (sound d member).2⟩
  · rintro ⟨name, visible, distinct, declares⟩
    exact ⟨name, distinct, fun d member => ⟨visible d member, declares d member⟩⟩

def untaxedOrders : TableDefinition :=
  ⟨"orders", some "ts", ["amount", "tax", "cost"],
    NameMap.ofList [("ts", .timestamp), ("amount", .decimal)], [], false⟩

def discoveredVisits : TableDefinition :=
  ⟨"visits", none, ["bounces"], NameMap.empty, [], true⟩

/-- The second table lacks metrics, and the third has the name of the first. -/
def faultyShop : Catalog :=
  ⟨"shop", [discoveredVisits, untaxedOrders, discoveredVisits]⟩

def turnedShop : Catalog :=
  ⟨"shop", [discoveredVisits, { untaxedOrders with metrics := ["cost", "tax", "amount"] },
    discoveredVisits]⟩

theorem untaxed_orders_reported :
    faultyShop.validate =
        .error (tableError "orders" ("metric '" ++ "tax" ++ "' is not declared in columns")) ∧
      turnedShop.Reorders faultyShop ∧ turnedShop.validate ≠ .ok () := by
  obtain ⟨-, reports, reordered⟩ := validate_reports_first_fault faultyShop
  have lacks : Undeclared untaxedOrders
      (tableError "orders" ("metric '" ++ "tax" ++ "' is not declared in columns")) :=
    @Undeclared.metric untaxedOrders ["amount"] ["cost"] "tax" (by decide +kernel) rfl
      (by decide +kernel) (by decide +kernel)
  have fits : AllFit [discoveredVisits] := by
    rw [allFit_iff, List.forall_mem_singleton]
    exact ⟨by decide, by decide, nofun⟩
  have failed := (reports _).2 (.inr ⟨by decide, [discoveredVisits], untaxedOrders, _, rfl, fits,
    .undeclared (by decide) (by decide) rfl lacks⟩)
  have turned : turnedShop.Reorders faultyShop := by
    refine ⟨rfl, faultyShop.tables, ?_, .refl _⟩
    refine .cons ⟨.refl _, rfl⟩ (.cons ⟨?_, rfl⟩ (.cons ⟨.refl _, rfl⟩ .nil))
    exact List.reverse_perm ["amount", "tax", "cost"]
  refine ⟨failed, turned, fun valid => ?_⟩
  rw [(reordered _ turned).1 valid] at failed
  cases failed

end Catalog

end SeriesCatalog
