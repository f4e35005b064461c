import SeriesCatalog.Environment

/-! # Settings from the environment

Settings honour an environment if they hold the value of every variable that is set, and the default
of every one that is not. What is read honours the environment exactly if none of the variables is
unreadable, since a value that is no text counts as no value.
-/

namespace SeriesCatalog

def Settings.variableNames : List String :=
  ["CLICKHOUSE_URL", "CLICKHOUSE_USER", "CLICKHOUSE_PASSWORD", "CLICKHOUSE_DATABASE",
    "CLICKSERIES_CATALOG", "CLICKSERIES_TIMESTAMP_COLUMN"]

/-- Every variable that is set has its value in the settings, defaults stand only for others. -/
structure Settings.Honours (s : Settings) (e : Environment) : Prop where
  url : (e.lookup "CLICKHOUSE_URL").getD (.text Settings.default.url) = .text s.url
  user : e.lookup "CLICKHOUSE_USER" = s.user.map .text
  password : e.lookup "CLICKHOUSE_PASSWORD" = s.password.map .text
  database : (e.lookup "CLICKHOUSE_DATABASE").getD (.text Settings.default.database) =
    .text s.database
  catalogFile : e.lookup "CLICKSERIES_CATALOG" = s.catalogFile.map .text
  timestamp : (e.lookup "CLICKSERIES_TIMESTAMP_COLUMN").getD (.text Settings.default.timestamp) =
    .text s.timestamp

namespace Environment

/-- The variables of settings that are set are texts. -/
def IsReadable (e : Environment) : Prop :=
  ∀ name ∈ Settings.variableNames, e.lookup name ≠ some .bytes

instance (e : Environment) : Decidable e.IsReadable :=
  inferInstanceAs (Decidable (∀ name ∈ Settings.variableNames, e.lookup name ≠ some .bytes))

/-- The environment without the variables that are no texts. -/
def texts (e : Environment) : Environment :=
  e.filter fun x => (e.text? x.1).isSome

section

variable {e : Environment} {name usual : String}

theorem lookup_eq_text?_iff :
    e.lookup name = (e.text? name).map .text ↔ e.lookup name ≠ some .bytes := by
  unfold text?
  cases e.lookup name with
  | none => simp
  | some value => cases value <;> simp

theorem getD_lookup_eq_text?_iff :
    (e.lookup name).getD (.text usual) = .text ((e.text? name).getD usual) ↔
      e.lookup name ≠ some .bytes := by
  unfold text?
  cases e.lookup name with
  | none => simp
  | some value => cases value <;> simp

theorem text?_of_lookup {shown : Option String} (set : e.lookup name = shown.map .text) :
    e.text? name = shown := by
  rw [text?, set]
  cases shown <;> rfl

theorem getD_text?_of_lookup {shown : String}
    (set : (e.lookup name).getD (.text usual) = .text shown) :
    (e.text? name).getD usual = shown := by
  unfold text?
  cases found : e.lookup name with
  | none => simpa [found] using set
  | some value =>
    obtain rfl : value = .text shown := by simpa [found] using set
    rfl

theorem lookup_filter (keep : String → Bool) (e : Environment) (name : String) :
    (e.filter fun x => keep x.1).lookup name = if keep name then e.lookup name else none := by
  induction e with
  | nil => simp
  | cons first rest ih =>
    obtain ⟨other, value⟩ := first
    by_cases same : name = other
    · subst same
      cases kept : keep name <;> simp [kept, ih]
    · have different : (name == other) = false := beq_eq_false_iff_ne.2 same
      cases kept : keep other <;> simp [kept, List.lookup_cons, different, ih]

theorem lookup_texts (e : Environment) (name : String) :
    e.texts.lookup name = (e.text? name).map .text := by
  rw [texts, lookup_filter fun name => (e.text? name).isSome]
  cases shown : e.text? name with
  | none => rfl
  | some value =>
    have readable : e.lookup name ≠ some .bytes := by
      intro unreadable
      simp [text?, unreadable] at shown
    simpa [shown] using lookup_eq_text?_iff.2 readable

@[simp] theorem text?_texts (e : Environment) (name : String) : e.texts.text? name = e.text? name :=
  text?_of_lookup (lookup_texts e name)

theorem texts_isReadable (e : Environment) : e.texts.IsReadable := by
  intro name _
  rw [← lookup_eq_text?_iff, text?_texts, lookup_texts]

end

end Environment

namespace Settings

open Environment

variable {e : Environment} {s given : Settings}

/-- The settings that are read, before they are validated. -/
def read (e : Environment) : Settings where
  url := (e.text? "CLICKHOUSE_URL").getD Settings.default.url
  user := e.text? "CLICKHOUSE_USER"
  password := e.text? "CLICKHOUSE_PASSWORD"
  database := (e.text? "CLICKHOUSE_DATABASE").getD Settings.default.database
  catalogFile := e.text? "CLICKSERIES_CATALOG"
  timestamp := (e.text? "CLICKSERIES_TIMESTAMP_COLUMN").getD Settings.default.timestamp

theorem ofEnvironment_eq (e : Environment) : ofEnvironment e = (read e).validated := rfl

theorem eq_of_validated (valid : given.validated = .ok s) : s = given := by
  unfold validated at valid
  split at valid
  · exact (Except.ok.inj valid).symm
  · cases valid

theorem read_honours_iff : (read e).Honours e ↔ e.IsReadable := by
  constructor
  · intro honours name member
    simp only [variableNames, List.mem_cons, List.not_mem_nil, or_false] at member
    rcases member with rfl | rfl | rfl | rfl | rfl | rfl
    · exact getD_lookup_eq_text?_iff.1 honours.url
    · exact lookup_eq_text?_iff.1 honours.user
    · exact lookup_eq_text?_iff.1 honours.password
    · exact getD_lookup_eq_text?_iff.1 honours.database
    · exact lookup_eq_text?_iff.1 honours.catalogFile
    · exact getD_lookup_eq_text?_iff.1 honours.timestamp
  · intro readable
    exact
      { url := getD_lookup_eq_text?_iff.2 (readable _ (by simp [variableNames]))
        user := lookup_eq_text?_iff.2 (readable _ (by simp [variableNames]))
        password := lookup_eq_text?_iff.2 (readable _ (by simp [variableNames]))
        database := getD_lookup_eq_text?_iff.2 (readable _ (by simp [variableNames]))
        catalogFile := lookup_eq_text?_iff.2 (readable _ (by simp [variableNames]))
        timestamp := getD_lookup_eq_text?_iff.2 (readable _ (by simp [variableNames])) }

theorem Honours.eq_read (honours : s.Honours e) : s = read e := by
  cases s
  simp only [read, mk.injEq]
  exact ⟨(getD_text?_of_lookup honours.url).symm, (text?_of_lookup honours.user).symm,
    (text?_of_lookup honours.password).symm, (getD_text?_of_lookup honours.database).symm,
    (text?_of_lookup honours.catalogFile).symm, (getD_text?_of_lookup honours.timestamp).symm⟩

/-- Settings from the environment honour it exactly if it is readable. Then they are what validation
makes of the values that are set, with the defaults filled in; else of those that are texts. -/
theorem ofEnvironment_honours_iff (e : Environment) :
    (∀ s, ofEnvironment e = .ok s → (s.Honours e ↔ e.IsReadable)) ∧
      (e.IsReadable → ∃ given : Settings, given.Honours e) ∧
      (∀ given : Settings, given.Honours e → ofEnvironment e = given.validated) ∧
      e.texts.IsReadable ∧ ofEnvironment e = ofEnvironment e.texts := by
  refine ⟨?_, fun readable => ⟨read e, read_honours_iff.2 readable⟩, ?_, texts_isReadable e, ?_⟩
  · intro s done
    obtain rfl := eq_of_validated done
    exact read_honours_iff
  · intro given honours
    rw [honours.eq_read, ofEnvironment_eq]
  · simp [ofEnvironment_eq, read]

theorem metrics_database_honoured :
    let e : Environment := [("CLICKHOUSE_DATABASE", .text "metrics"), ("HOME", .bytes)]
    let s : Settings := { default with database := "metrics" }
    ofEnvironment e = .ok s ∧ s.Honours e := by
  intro e s
  have done : ofEnvironment e = .ok s := rfl
  have readable : e.IsReadable := by decide
  exact ⟨done, ((ofEnvironment_honours_iff e).1 s done).2 readable⟩

/-- A database whose name is no text is not refused: the default one is taken in its place. -/
theorem unreadable_database_ignored :
    ofEnvironment [("CLICKHOUSE_DATABASE", .bytes)] = .ok default ∧
      ¬ default.Honours [("CLICKHOUSE_DATABASE", .bytes)] := by
  refine ⟨rfl, ?_⟩
  intro honours
  cases honours.database

end Settings

end SeriesCatalog
