import SeriesCatalog.Catalog.Codec
import SeriesCatalog.Proofs.Documents
import SeriesCatalog.Proofs.IntervalText
import SeriesCatalog.Proofs.NameMap
import SeriesCatalog.Proofs.Records

/-! # Catalogs read back from JSON

The object of a catalog has one member for each part, and all parts but the intervals are read back
from their member as they are. So a catalog that was read is read back when all its literals are,
which fails exactly for those with a year that is written with a sign.
-/

namespace SeriesCatalog

open Outcome

namespace Json

theorem asOption_ofOption (text : Option String) :
    (ofOption text).asOption asString = .ok text := by
  cases text <;> rfl

theorem asList_strings (items : List String) :
    (Json.array (items.map .string)).asList asString = .ok items := by
  rw [asList_map]
  exact mapM_self fun item _ => rfl

theorem asMap_entries (columns : NameMap ScalarType) :
    (Json.object (columns.entries.map fun (name, type) => (name, .string type.name))).asMap
      asScalarType = .ok columns := by
  rw [asMap, List.mapM_map, mapM_self]
  · exact congrArg Except.ok columns.ofList_entries
  · intro entry member
    simp only [Function.comp_apply, asScalarType_name]
    rfl

theorem asInterval_string (text : String) :
    asInterval (.string text) = (Interval.parse text).mapError Mismatch.interval := by
  unfold asInterval
  simp only [asString, bind, Except.bind]
  cases Interval.parse text <;> rfl

end Json

namespace TableDefinition

/-- The parts of a definition with their values. -/
def fields (d : TableDefinition) : Json.FilledFields :=
  rules.zip [.string d.dataSource, Json.ofOption d.timestamp, .array (d.metrics.map .string),
    .object (d.columns.entries.map fun (name, type) => (name, .string type.name)),
    .array (d.intervals.map fun i => .string i.text), .bool d.discover]

theorem asRecord_toJson (d : TableDefinition) :
    d.toJson.asRecord "struct TableDefinition" rules =
      ((Json.array (d.intervals.map fun i => .string i.text)).asList Json.asInterval).map
        fun _ => d.fields.members := by
  have distinct : (d.fields.rules.map (·.name)).Nodup := by
    change (rules.map (·.name)).Nodup
    decide
  refine (Json.FilledFields.asRecord_members distinct).trans ?_
  simp only [fields, rules, List.zip_cons_cons, List.zip_nil_right, List.forM_eq_forM,
    List.forM_cons, List.forM_nil, Json.needed, Json.optional, Json.asOption_ofOption,
    Json.asList_strings, Json.asMap_entries, Json.asString, Json.asBool]
  cases (Json.array (d.intervals.map fun i => .string i.text)).asList Json.asInterval <;> rfl

/-- Only the intervals of a definition may be read differently from how they were written. -/
theorem ofJson_toJson (d : TableDefinition) :
    ofJson d.toJson =
      (d.intervals.mapM fun i => (Interval.parse i.text).mapError Mismatch.interval).map
        fun intervals => { d with intervals } := by
  have literals : (Json.array (d.intervals.map fun i => .string i.text)).asList Json.asInterval =
      d.intervals.mapM fun i => (Interval.parse i.text).mapError Mismatch.interval := by
    rw [Json.asList_map]
    simp only [Json.asInterval_string]
  rw [ofJson, asRecord_toJson, ← literals]
  cases read : (Json.array (d.intervals.map fun i => .string i.text)).asList Json.asInterval with
  | error e => rfl
  | ok intervals =>
    simp [fields, rules, Json.FilledFields.members, Json.field, Json.fieldOr, Json.lookup?,
      Json.needed, Json.optional, Json.asOption_ofOption, Json.asList_strings, Json.asMap_entries,
      Json.asString, Json.asBool, read, Except.map, bind, Except.bind, pure, Except.pure]

end TableDefinition

namespace Catalog

def fields (c : Catalog) : Json.FilledFields :=
  rules.zip [.string c.name, .array (c.tables.map TableDefinition.toJson)]

theorem asRecord_toJson (c : Catalog) :
    c.toJson.asRecord "struct CatalogConfig" rules =
      (c.tables.mapM fun d => TableDefinition.ofJson d.toJson).map fun _ => c.fields.members := by
  have distinct : (c.fields.rules.map (·.name)).Nodup := by
    change (rules.map (·.name)).Nodup
    decide
  refine (Json.FilledFields.asRecord_members distinct).trans ?_
  simp only [fields, rules, List.zip_cons_cons, List.zip_nil_right, List.forM_eq_forM,
    List.forM_cons, List.forM_nil, Json.needed, Json.optional, Json.asString, Json.asList_map]
  cases c.tables.mapM fun d => TableDefinition.ofJson d.toJson <;> rfl

/-- Only the tables of a catalog may be read differently from how they were written. -/
theorem ofJson_toJson (c : Catalog) :
    ofJson c.toJson =
      (c.tables.mapM fun d => TableDefinition.ofJson d.toJson).map
        fun tables => { c with tables } := by
  rw [ofJson, asRecord_toJson]
  cases read : c.tables.mapM fun d => TableDefinition.ofJson d.toJson with
  | error e => rfl
  | ok tables =>
    simp [fields, rules, Json.FilledFields.members, Json.field, Json.fieldOr, Json.lookup?,
      Json.needed, Json.optional, Json.asList_map, Json.asString, read, Except.map, bind,
      Except.bind, pure, Except.pure]

end Catalog

/-- The years of both endpoints are written with four digits and no sign. -/
def Interval.HasPlainYears (i : Interval) : Prop :=
  i.start.instant.HasPlainYear ∧ i.stop.instant.HasPlainYear

instance (i : Interval) : Decidable i.HasPlainYears :=
  inferInstanceAs (Decidable (_ ∧ _))

/-- Literals denote no leap seconds within a minute, so their intervals lose nothing. -/
theorem Interval.HasLiteral.parse_text {i : Interval} (given : i.HasLiteral)
    (plain : i.HasPlainYears) : Interval.parse i.text = .ok i := by
  have canonical := given.canonical
  obtain ⟨literal, parsed⟩ := given
  rw [Interval.parse_text canonical plain.1 plain.2]
  exact (new_displayed_iff canonical).2 (parse_settled parsed)

namespace TableDefinition

def HasPlainYears (d : TableDefinition) : Prop :=
  ∀ i ∈ d.intervals, i.HasPlainYears

instance (d : TableDefinition) : Decidable d.HasPlainYears :=
  inferInstanceAs (Decidable (∀ i ∈ d.intervals, i.HasPlainYears))

theorem literal_read {d : TableDefinition} (given : d.HasLiterals) :
    ∀ i ∈ d.intervals, i.HasPlainYears →
      (Interval.parse i.text).mapError Mismatch.interval = .ok i := by
  intro i member plain
  rw [(given i member).parse_text plain, mapError_ok]

theorem literal_refused {d : TableDefinition} (given : d.HasLiterals) :
    ∀ i ∈ d.intervals, ¬ i.HasPlainYears →
      (Interval.parse i.text).mapError Mismatch.interval = .error (.interval (.malformed i.text
        (if i.start.instant.HasPlainYear then .badEnd else .badStart))) := by
  intro i member signed
  rw [Interval.parse_text_signed (given i member).canonical signed, mapError_error]

theorem reads_back {d : TableDefinition} (given : d.HasLiterals) (plain : d.HasPlainYears) :
    ofJson d.toJson = .ok d := by
  rw [ofJson_toJson, mapM_self fun i member => literal_read given i member (plain i member)]
  rfl

theorem refused {d : TableDefinition} (given : d.HasLiterals) (signed : ¬ d.HasPlainYears) :
    ∃ i ∈ d.intervals, ¬ i.HasPlainYears ∧ ofJson d.toJson = .error (.interval (.malformed i.text
      (if i.start.instant.HasPlainYear then .badEnd else .badStart))) := by
  obtain ⟨i, member, bad, all⟩ := mapM_refused
    (fun i member plain => ⟨i, literal_read given i member plain⟩)
    (fun i member bad => ⟨_, literal_refused given i member bad⟩) signed
  refine ⟨i, member, bad, ?_⟩
  rw [ofJson_toJson, all _ (literal_refused given i member bad)]
  rfl

end TableDefinition

namespace Catalog

def HasPlainYears (c : Catalog) : Prop :=
  ∀ d ∈ c.tables, d.HasPlainYears

instance (c : Catalog) : Decidable c.HasPlainYears :=
  inferInstanceAs (Decidable (∀ d ∈ c.tables, d.HasPlainYears))

theorem reads_back {c : Catalog} (given : ∀ d ∈ c.tables, d.HasLiterals)
    (plain : c.HasPlainYears) : ofJson c.toJson = .ok c := by
  have each : ∀ d ∈ c.tables, TableDefinition.ofJson d.toJson = .ok d := by
    intro d member
    exact TableDefinition.reads_back (given d member) (plain d member)
  rw [ofJson_toJson, mapM_self each]
  rfl

theorem refused {c : Catalog} (given : ∀ d ∈ c.tables, d.HasLiterals)
    (signed : ¬ c.HasPlainYears) :
    ∃ d ∈ c.tables, ∃ i ∈ d.intervals, ¬ i.HasPlainYears ∧
      ofJson c.toJson = .error (.interval (.malformed i.text
        (if i.start.instant.HasPlainYear then .badEnd else .badStart))) := by
  have failing : ∀ d ∈ c.tables, ¬ d.HasPlainYears →
      ∃ e, TableDefinition.ofJson d.toJson = .error e := by
    intro d member bad
    obtain ⟨i, -, -, failed⟩ := TableDefinition.refused (given d member) bad
    exact ⟨_, failed⟩
  obtain ⟨d, member, bad, all⟩ := mapM_refused
    (fun d member plain => ⟨d, TableDefinition.reads_back (given d member) plain⟩) failing
    signed
  obtain ⟨i, declared, signedYear, same⟩ := TableDefinition.refused (given d member) bad
  refine ⟨d, member, i, declared, signedYear, ?_⟩
  rw [ofJson_toJson, all _ same]
  rfl

/-- A catalog that was read is read back as itself if and only if its years are plain. Else it is
refused for one of the literals, so it is never read back as another one. -/
theorem json_round_trip {j : Json} {c : Catalog} (read : ofJson j = .ok c) :
    (ofJson c.toJson = .ok c ↔ c.HasPlainYears) ∧
      (¬ c.HasPlainYears → ∃ d ∈ c.tables, ∃ i ∈ d.intervals, ¬ i.HasPlainYears ∧
        ofJson c.toJson = .error (.interval (.malformed i.text
          (if i.start.instant.HasPlainYear then .badEnd else .badStart)))) ∧
      ∀ again, ofJson c.toJson = .ok again → again = c ∧ again.validate = c.validate ∧
        again.tables.map TableDefinition.seed = c.tables.map TableDefinition.seed := by
  have given := ofJson_hasLiterals read
  have exact : ∀ again, ofJson c.toJson = .ok again → again = c ∧ c.HasPlainYears := by
    intro again done
    by_cases plain : c.HasPlainYears
    · rw [reads_back given plain] at done
      cases done
      exact ⟨rfl, plain⟩
    · obtain ⟨_, _, _, _, _, failed⟩ := refused given plain
      rw [failed] at done
      cases done
  refine ⟨⟨fun done => (exact c done).2, reads_back given⟩, refused given, ?_⟩
  intro again done
  obtain ⟨rfl, -⟩ := exact again done
  exact ⟨rfl, rfl, rfl⟩

theorem epoch_inCalendar : Calendar.firstSecond ≤ 0 ∧ 0 ≤ Calendar.lastSecond := by
  decide

/-- A table with all its parts and one with none but its name. -/
def orders : Catalog :=
  ⟨"shop", [⟨"orders", some "placed", ["total", "total"],
    .ofList [("placed", .timestamp), ("total", .decimal)],
    [⟨⟨.atSecond 0 epoch_inCalendar, 0⟩, ⟨⟨1483228799, 1500000000, by decide, by decide⟩, 0⟩,
      by decide⟩], true⟩, ⟨"returns", none, [], .empty, [], false⟩]⟩

def ordersJson : Json :=
  .object [("tables", .array [
      .object [("metrics", .array [.string "total", .string "total"]), ("discover", .bool true),
        ("intervals", .array [.string " 1970-1-1 / 2016-12-31T23:59:60.5Z"]),
        ("columns", .object [("total", .string "decimal"), ("placed", .string "timestamp")]),
        ("timestamp_column", .string "placed"), ("data_source", .string "orders")],
      .array [.string "returns"]]),
    ("name", .string "shop")]

/-- An interval of days is read with a signed year, but the text of a midnight is not. -/
def farDays : Catalog :=
  ⟨"far", [⟨"days", none, [], .empty,
    [⟨⟨.atSecond 253402300800 (by decide), 0⟩, ⟨.atSecond 253402387200 (by decide), 0⟩,
      by decide⟩], false⟩]⟩

def farDaysJson : Json :=
  .array [.string "far", .array [.object [("data_source", .string "days"),
    ("intervals", .array [.string "+10000-01-01/+10000-01-02"])]]]

theorem orders_round_trip :
    (ofJson ordersJson = .ok orders ∧ ofJson orders.toJson = .ok orders) ∧
      ofJson farDaysJson = .ok farDays ∧ ∃ e, ofJson farDays.toJson = .error e := by
  have near : ofJson ordersJson = .ok orders := by decide +kernel
  have far : ofJson farDaysJson = .ok farDays := by decide +kernel
  refine ⟨⟨near, (json_round_trip near).1.2 (by decide +kernel)⟩, far, ?_⟩
  obtain ⟨d, -, i, -, -, failed⟩ := (json_round_trip far).2.1 (by decide +kernel)
  exact ⟨_, failed⟩

end Catalog

end SeriesCatalog
