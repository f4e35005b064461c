import SeriesCatalog.Proofs.EndpointReading
import SeriesCatalog.Proofs.Interval

/-! # The grammar of interval literals

A literal is two endpoints around a slash. `Reads` has one rule for each way in which a literal may
end up. The parser follows exactly these rules: they leave no literal out, and none of them gives an
outcome other than that of the parser.
-/

namespace SeriesCatalog.Interval

open Calendar

/-- What stands before and after the first slash, without the blanks around it. -/
def Halves (literal : String) (start stop : List Char) : Prop :=
  ∃ before after, Text.Trims literal.toList (before ++ '/' :: after) ∧ '/' ∉ before ∧
    Text.Trims before start ∧ Text.Trims after stop

/-- The outcome for a literal. A fault of the start is reported before one of the end, and both of
them before the order and the offsets of the endpoints. -/
inductive Reads (literal : String) : Except IntervalError Interval → Prop where
  | noSlash {inner : List Char} (trimmed : Text.Trims literal.toList inner) (absent : '/' ∉ inner) :
    Reads literal (.error (.malformed literal .noSlash))
  | badStart {start stop : List Char} (halves : Halves literal start stop)
    (foreign : ∀ e : Endpoint, e.text ≠ start) :
    Reads literal (.error (.malformed literal .badStart))
  | badEnd {first : Endpoint} {stop : List Char} (halves : Halves literal first.text stop)
    (foreign : ∀ e : Endpoint, e.text ≠ stop) :
    Reads literal (.error (.malformed literal .badEnd))
  | endBeforeStart {first last : Endpoint} (halves : Halves literal first.text last.text)
    (reversed : last.timestamp.instant < first.timestamp.instant) :
    Reads literal (.error (.endBeforeStart first.timestamp last.timestamp))
  | notUtc {first last : Endpoint} (halves : Halves literal first.text last.text)
    (ordered : ¬ last.timestamp.instant < first.timestamp.instant)
    (shifted : ¬ (first.timestamp.offset = 0 ∧ last.timestamp.offset = 0)) :
    Reads literal (.error (.notUtc literal))
  | interval {first last : Endpoint} (halves : Halves literal first.text last.text)
    (ordered : ¬ last.timestamp.instant < first.timestamp.instant)
    (utc : first.timestamp.offset = 0 ∧ last.timestamp.offset = 0) :
    Reads literal (.ok ⟨first.timestamp, last.timestamp, ordered⟩)

variable {literal : String} {start stop : List Char}

theorem halves_iff :
    Halves literal start stop ↔
      ∃ before after, Text.splitFirst? '/' (Text.trim literal.toList) = some (before, after) ∧
        Text.trim before = start ∧ Text.trim after = stop := by
  simp only [Halves, Text.splitFirst?_eq_some_iff, Text.trim_eq_iff, and_assoc]

/-- The order and the offsets of two endpoints decide about the interval between them. -/
def between (literal : String) (first last : Timestamp) : Except IntervalError Interval :=
  match new first last with
  | .error e => .error e
  | .ok i => if i.isCanonical then .ok i else .error (.notUtc literal)

theorem parse_halves (halves : Halves literal start stop) :
    parse literal =
      match Timestamp.read? start with
      | none => .error (.malformed literal .badStart)
      | some first =>
        match Timestamp.read? stop with
        | none => .error (.malformed literal .badEnd)
        | some last => between literal first last := by
  obtain ⟨before, after, split, rfl, rfl⟩ := halves_iff.1 halves
  simp only [parse, split]
  rfl

theorem parse_noSlash {inner : List Char} (trimmed : Text.Trims literal.toList inner)
    (absent : '/' ∉ inner) : parse literal = .error (.malformed literal .noSlash) := by
  rw [parse, Text.trim_eq_iff.2 trimmed, Text.splitFirst?_eq_none_iff.2 absent]

theorem between_ordered {first last : Timestamp} (ordered : ¬ last.instant < first.instant) :
    between literal first last =
      if first.offset = 0 ∧ last.offset = 0 then .ok ⟨first, last, ordered⟩
      else .error (.notUtc literal) := by
  simp only [between, new, dif_neg ordered, isCanonical_iff]

theorem between_reversed {first last : Timestamp} (reversed : last.instant < first.instant) :
    between literal first last = .error (.endBeforeStart first last) := by
  simp only [between, new, dif_pos reversed]

theorem Reads.parse_eq {outcome : Except IntervalError Interval} (reads : Reads literal outcome) :
    parse literal = outcome := by
  cases reads with
  | noSlash trimmed absent => exact parse_noSlash trimmed absent
  | badStart halves foreign => rw [parse_halves halves, Endpoint.read?_eq_none_iff.2 foreign]
  | badEnd halves foreign =>
    rw [parse_halves halves, Endpoint.read?_text, Endpoint.read?_eq_none_iff.2 foreign]
  | endBeforeStart halves reversed =>
    rw [parse_halves halves, Endpoint.read?_text, Endpoint.read?_text]
    exact between_reversed reversed
  | notUtc halves ordered shifted =>
    rw [parse_halves halves, Endpoint.read?_text, Endpoint.read?_text]
    exact (between_ordered ordered).trans (if_neg shifted)
  | interval halves ordered utc =>
    rw [parse_halves halves, Endpoint.read?_text, Endpoint.read?_text]
    exact (between_ordered ordered).trans (if_pos utc)

theorem exists_reads (literal : String) : ∃ outcome, Reads literal outcome := by
  by_cases slash : '/' ∈ Text.trim literal.toList
  · obtain ⟨before, after, split, absent⟩ := List.eq_append_cons_of_mem slash
    have halves : Halves literal (Text.trim before) (Text.trim after) :=
      ⟨before, after, Text.trim_eq_iff.1 split, absent, Text.trims_trim _, Text.trims_trim _⟩
    generalize Text.trim before = start at halves
    generalize Text.trim after = stop at halves
    by_cases startForm : ∃ e : Endpoint, e.text = start
    · obtain ⟨first, rfl⟩ := startForm
      by_cases stopForm : ∃ e : Endpoint, e.text = stop
      · obtain ⟨last, rfl⟩ := stopForm
        by_cases reversed : last.timestamp.instant < first.timestamp.instant
        · exact ⟨_, .endBeforeStart halves reversed⟩
        · by_cases utc : first.timestamp.offset = 0 ∧ last.timestamp.offset = 0
          · exact ⟨_, .interval halves reversed utc⟩
          · exact ⟨_, .notUtc halves reversed utc⟩
      · exact ⟨_, .badEnd halves (not_exists.1 stopForm)⟩
    · exact ⟨_, .badStart halves (not_exists.1 startForm)⟩
  · exact ⟨_, .noSlash (Text.trims_trim _) slash⟩

theorem parse_eq_iff {outcome : Except IntervalError Interval} :
    parse literal = outcome ↔ Reads literal outcome := by
  constructor
  · rintro rfl
    obtain ⟨outcome, reads⟩ := exists_reads literal
    exact reads.parse_eq ▸ reads
  · exact Reads.parse_eq

/-- Literals are read by their grammar. Its dates denote the midnights of days that are counted one
after the other from 1970-01-01, and how a date is padded makes no difference. -/
theorem parse_denotes :
    (∀ literal outcome, parse literal = outcome ↔ Reads literal outcome) ∧
      (∀ f : DateForm, 0 ≤ f.date.year ∧ f.date.year ≤ 9999 →
        Timestamp.read? f.text = some f.timestamp ∧
          Timestamp.read? (f.date.text ++ "T00:00:00Z".toList) = some f.timestamp) ∧
      (⟨1970, 1, 1⟩ : Date).dayNumber = 0 ∧
        ∀ d : Date, d.isValid = true →
          d.next.isValid = true ∧ d.next.dayNumber = d.dayNumber + 1 := by
  refine ⟨fun literal outcome => parse_eq_iff, ?_, by decide, fun d => Date.dayNumber_next⟩
  intro f plain
  exact ⟨(Endpoint.date f).read?_text, f.read?_padded plain⟩

/-- The interval ends in a leap second, of whose fraction nine digits count. -/
example : parse " 2016-12- 31/2016-12-31t23:59:60.1234567899\u221200:00" =
    .ok ⟨⟨.atSecond 1483142400 (by decide), 0⟩,
      ⟨⟨1483228799, 1123456789, by decide, by decide⟩, 0⟩, by decide⟩ := by
  decide +kernel

end SeriesCatalog.Interval
