import SeriesCatalog.Proofs.Interval
import SeriesCatalog.Proofs.TimestampText

/-! # Intervals read back from their literal

The literal of a canonical interval is read when the years of both endpoints are plain, and is
malformed otherwise. What is read is the interval between the instants that the literal shows: the
same one, unless an endpoint is a leap second within a minute. Offsets are written in minutes: those
of a few seconds look like none, and an interval that has such offsets is read as one that lies so
many seconds elsewhere.
-/

namespace SeriesCatalog.Interval

open Calendar

theorem halves_text (i : Interval) :
    Text.splitFirst? '/' (Text.trim i.text.toList) =
      some (i.start.text .letter, i.stop.text .letter) := by
  have start := i.start.written_text
  have stop := i.stop.written_text
  have solid : ∀ c ∈ i.start.text .letter ++ '/' :: i.stop.text .letter,
      Text.isBlank c = false := by
    simp only [List.forall_mem_append, List.forall_mem_cons]
    exact ⟨fun c member => (start c member).solid.1, rfl, fun c member => (stop c member).solid.1⟩
  rw [text, String.toList_ofList, Text.trim_eq_self solid]
  exact Text.splitFirst?_append fun slash => (start '/' slash).solid.2 rfl

theorem trim_endpoint (t : Timestamp) : Text.trim (t.text .letter) = t.text .letter :=
  Text.trim_eq_self fun c member => (t.written_text c member).solid.1

theorem parse_text_iff_read {i j : Interval} :
    parse i.text = .ok j ↔
      Timestamp.read? (i.start.text .letter) = some j.start ∧
        Timestamp.read? (i.stop.text .letter) = some j.stop ∧ j.isCanonical = true := by
  rw [parse_ok_iff, halves_text]
  constructor
  · rintro ⟨before, after, same, startRead, stopRead, canonical⟩
    cases same
    rw [trim_endpoint] at startRead stopRead
    exact ⟨startRead, stopRead, canonical⟩
  · rintro ⟨startRead, stopRead, canonical⟩
    refine ⟨_, _, rfl, ?_, ?_, canonical⟩
    · rwa [trim_endpoint]
    · rwa [trim_endpoint]

/-- No endpoint is a leap second within a minute. -/
def Settled (i : Interval) : Prop :=
  ¬ i.start.instant.IsStray ∧ ¬ i.stop.instant.IsStray

theorem settled_iff {i : Interval} :
    i.Settled ↔ i.start.instant.displayed = i.start.instant ∧
      i.stop.instant.displayed = i.stop.instant :=
  and_congr Instant.displayed_eq_iff.symm Instant.displayed_eq_iff.symm

/-- What is read is the interval between the instants that are shown, if they are in order. -/
theorem parse_text {i : Interval} (canonical : i.isCanonical = true)
    (start : i.start.instant.HasPlainYear) (stop : i.stop.instant.HasPlainYear) :
    parse i.text = new ⟨i.start.instant.displayed, 0⟩ ⟨i.stop.instant.displayed, 0⟩ := by
  obtain ⟨startUtc, stopUtc⟩ := isCanonical_iff.1 canonical
  simp only [parse, halves_text, trim_endpoint, Timestamp.read?_text startUtc start,
    Timestamp.read?_text stopUtc stop]
  cases made : new ⟨i.start.instant.displayed, 0⟩ ⟨i.stop.instant.displayed, 0⟩ with
  | error e => rfl
  | ok j =>
    obtain ⟨sameStart, sameStop⟩ := new_ok made
    have utc : j.isCanonical = true :=
      isCanonical_iff.2 ⟨by rw [sameStart], by rw [sameStop]⟩
    simp only [utc, if_true]

theorem new_displayed_iff {i : Interval} (canonical : i.isCanonical = true) :
    new ⟨i.start.instant.displayed, 0⟩ ⟨i.stop.instant.displayed, 0⟩ = .ok i ↔ i.Settled := by
  obtain ⟨startUtc, stopUtc⟩ := isCanonical_iff.1 canonical
  rw [settled_iff]
  constructor
  · intro made
    obtain ⟨start, stop⟩ := new_ok made
    exact ⟨congrArg Timestamp.instant start.symm, congrArg Timestamp.instant stop.symm⟩
  · rintro ⟨start, stop⟩
    rw [start, stop, Timestamp.eq_utc startUtc, Timestamp.eq_utc stopUtc]
    exact new_start_stop i

theorem parse_settled {literal : String} {i : Interval} (parsed : parse literal = .ok i) :
    i.Settled := by
  obtain ⟨before, after, -, startRead, stopRead, -⟩ := parse_ok_iff.1 parsed
  obtain ⟨first, -, start⟩ := Endpoint.of_read? startRead
  obtain ⟨last, -, stop⟩ := Endpoint.of_read? stopRead
  rw [Settled, ← start, ← stop]
  exact ⟨first.not_isStray, last.not_isStray⟩

theorem parse_text_signed {i : Interval} (canonical : i.isCanonical = true)
    (signed : ¬ (i.start.instant.HasPlainYear ∧ i.stop.instant.HasPlainYear)) :
    parse i.text = .error (.malformed i.text
      (if i.start.instant.HasPlainYear then .badEnd else .badStart)) := by
  obtain ⟨startUtc, stopUtc⟩ := isCanonical_iff.1 canonical
  have unread {t : Timestamp} (utc : t.offset = 0) (signed : ¬ t.instant.HasPlainYear) :
      Timestamp.read? (t.text .letter) = none :=
    Timestamp.read?_text_none fun plain => signed ((Timestamp.hasPlainLocalYear_utc utc).1 plain)
  by_cases start : i.start.instant.HasPlainYear
  · have stop : ¬ i.stop.instant.HasPlainYear := fun stop => signed ⟨start, stop⟩
    simp only [parse, halves_text, trim_endpoint, Timestamp.read?_text startUtc start,
      unread stopUtc stop, if_pos start]
  · simp only [parse, halves_text, trim_endpoint, unread startUtc start, if_neg start]

/-- Reading undoes writing exactly for the years 0 to 9999 without leap seconds within a minute. A
literal of other years is refused, and such a leap second is read as the second that is shown. -/
theorem parse_text_iff {i : Interval} (canonical : i.isCanonical = true) :
    (parse i.text = .ok i ↔
        (i.start.instant.HasPlainYear ∧ i.stop.instant.HasPlainYear) ∧ i.Settled) ∧
      (¬ (i.start.instant.HasPlainYear ∧ i.stop.instant.HasPlainYear) →
        ∃ fault, parse i.text = .error (.malformed i.text fault)) ∧
      (i.start.instant.HasPlainYear ∧ i.stop.instant.HasPlainYear →
        parse i.text = new ⟨i.start.instant.displayed, 0⟩ ⟨i.stop.instant.displayed, 0⟩) := by
  refine ⟨?_, fun signed => ⟨_, parse_text_signed canonical signed⟩,
    fun plain => parse_text canonical plain.1 plain.2⟩
  by_cases plain : i.start.instant.HasPlainYear ∧ i.stop.instant.HasPlainYear
  · rw [parse_text canonical plain.1 plain.2, new_displayed_iff canonical]
    exact (and_iff_right plain).symm
  · rw [parse_text_signed canonical plain]
    constructor
    · rintro ⟨⟩
    · exact fun kept => absurd kept.1 plain

/-- From a nanosecond into year 0 to the last one of the leap second that ends year 9999. -/
def widest : Interval :=
  ⟨⟨⟨-62167219200, 1, by decide, by decide⟩, 0⟩,
    ⟨⟨253402300799, 1999999999, by decide, by decide⟩, 0⟩, by decide⟩

theorem widest_reads_back :
    widest.isCanonical = true ∧
      widest.text = "0000-01-01T00:00:00.000000001Z/9999-12-31T23:59:60.999999999Z" ∧
      parse widest.text = .ok widest := by
  have canonical : widest.isCanonical = true := rfl
  have plain : widest.start.instant.HasPlainYear ∧ widest.stop.instant.HasPlainYear := by
    decide +kernel
  have settled : widest.Settled := by
    constructor <;> decide
  exact ⟨canonical, by decide +kernel, (parse_text_iff canonical).1.2 ⟨plain, settled⟩⟩

/-- From a leap second that follows 23:56:04 to midnight. -/
def fromStray : Interval :=
  ⟨⟨⟨1704066964, 1333333333, by decide, by decide⟩, 0⟩,
    ⟨.atSecond 1704067200 (by decide), 0⟩, by decide⟩

/-- From the second that follows 23:56:04 to midnight. -/
def fromShown : Interval :=
  ⟨⟨⟨1704066965, 333333333, by decide, by decide⟩, 0⟩,
    ⟨.atSecond 1704067200 (by decide), 0⟩, by decide⟩

theorem fromStray_misread :
    fromStray.isCanonical = true ∧
      (fromStray.start.instant.HasPlainYear ∧ fromStray.stop.instant.HasPlainYear) ∧
      fromStray.text = "2023-12-31T23:56:05.333333333Z/2024-01-01T00:00:00Z" ∧
      parse fromStray.text = .ok fromShown ∧ fromShown.same fromStray = false := by
  refine ⟨rfl, by decide +kernel, by decide +kernel, by decide +kernel, rfl⟩

section Offsets

variable {i j : Interval}

theorem same_refl (i : Interval) : i.same i = true := by
  simp [same]

theorem canonical_of_same (canonical : j.isCanonical = true) (kept : j.same i = true) :
    i.isCanonical = true := by
  simp only [same, Bool.and_eq_true, beq_iff_eq] at kept
  rw [isCanonical, ← kept.2]
  exact canonical

/-- The literal is that of an interval in UTC, up to the sign and digits of a zero offset. -/
def LooksCanonical (i : Interval) : Prop :=
  ∃ first last : Instant, i.start.Shows first ∧ i.stop.Shows last ∧ ¬ last < first

variable (startRange : Timestamp.isOffset i.start.offset = true)
  (stopRange : Timestamp.isOffset i.stop.offset = true)

include startRange stopRange

theorem parse_text_shows :
    parse i.text = .ok j ↔
      j.isCanonical = true ∧ i.start.Shows j.start.instant ∧ i.stop.Shows j.stop.instant := by
  rw [← Timestamp.read?_text_utc_iff startRange, ← Timestamp.read?_text_utc_iff stopRange,
    parse_text_iff_read]
  constructor
  · rintro ⟨startRead, stopRead, canonical⟩
    obtain ⟨startUtc, stopUtc⟩ := isCanonical_iff.1 canonical
    rw [Timestamp.eq_utc startUtc, Timestamp.eq_utc stopUtc]
    exact ⟨canonical, startRead, stopRead⟩
  · rintro ⟨canonical, startRead, stopRead⟩
    obtain ⟨startUtc, stopUtc⟩ := isCanonical_iff.1 canonical
    rw [Timestamp.eq_utc startUtc] at startRead
    rw [Timestamp.eq_utc stopUtc] at stopRead
    exact ⟨startRead, stopRead, canonical⟩

theorem exists_parse_text_iff : (∃ j, parse i.text = .ok j) ↔ i.LooksCanonical := by
  constructor
  · rintro ⟨j, parsed⟩
    obtain ⟨-, start, stop⟩ := (parse_text_shows startRange stopRange).1 parsed
    exact ⟨_, _, start, stop, j.ordered⟩
  · rintro ⟨first, last, start, stop, ordered⟩
    exact ⟨⟨⟨first, 0⟩, ⟨last, 0⟩, ordered⟩,
      (parse_text_shows startRange stopRange).2 ⟨rfl, start, stop⟩⟩

omit startRange stopRange in
theorem same_of_parse_text_iff (canonical : i.isCanonical = true) (parsed : parse i.text = .ok j) :
    j.same i = true ↔ i.Settled := by
  have plain : i.start.instant.HasPlainYear ∧ i.stop.instant.HasPlainYear := by
    by_contra signed
    rw [parse_text_signed canonical signed] at parsed
    cases parsed
  rw [parse_text canonical plain.1 plain.2] at parsed
  constructor
  · intro kept
    simp only [same, Bool.and_eq_true, beq_iff_eq] at kept
    obtain ⟨⟨sameStart, sameStop⟩, -⟩ := kept
    obtain ⟨start, stop⟩ := new_ok parsed
    rw [start] at sameStart
    rw [stop] at sameStop
    exact settled_iff.2 ⟨sameStart, sameStop⟩
  · intro settled
    rw [(new_displayed_iff canonical).2 settled] at parsed
    cases parsed
    exact same_refl i

/-- An accepted literal is read as another interval in two cases only: an endpoint is a leap second
within a minute, or the interval is not in UTC and its offsets are written as zero nevertheless,
since they round to zero. -/
theorem text_kept_iff :
    ((∃ j, parse i.text = .ok j) ↔ i.LooksCanonical) ∧
      ((∀ j, parse i.text = .ok j → j.same i = true) ↔
        ((i.isCanonical = true ∧ i.Settled) ∨ ¬ i.LooksCanonical)) := by
  have accepted := exists_parse_text_iff startRange stopRange
  refine ⟨accepted, fun kept => ?_, ?_⟩
  · by_cases looks : i.LooksCanonical
    · obtain ⟨j, parsed⟩ := accepted.2 looks
      have utc := ((parse_text_shows startRange stopRange).1 parsed).1
      have canonical := canonical_of_same utc (kept j parsed)
      exact .inl ⟨canonical, (same_of_parse_text_iff canonical parsed).1 (kept j parsed)⟩
    · exact .inr looks
  · rintro (⟨canonical, settled⟩ | foreign) j parsed
    · exact (same_of_parse_text_iff canonical parsed).2 settled
    · exact absurd (accepted.1 ⟨j, parsed⟩) foreign

end Offsets

/-- A day on a clock that is half a minute ahead at its start and in UTC at its end. -/
def halfAhead : Interval :=
  ⟨⟨.atSecond 1704067200 (by decide), 30⟩, ⟨.atSecond 1704153600 (by decide), 0⟩, by decide⟩

theorem halfAhead_kept :
    Timestamp.isOffset halfAhead.start.offset = true ∧
      Timestamp.isOffset halfAhead.stop.offset = true ∧
      halfAhead.text = "2024-01-01T00:00:30+00:01/2024-01-02T00:00:00Z" ∧
      ∀ j, parse halfAhead.text = .ok j → j.same halfAhead = true := by
  have startRange : Timestamp.isOffset halfAhead.start.offset = true := rfl
  have stopRange : Timestamp.isOffset halfAhead.stop.offset = true := rfl
  refine ⟨startRange, stopRange, by decide +kernel, ?_⟩
  refine (text_kept_iff startRange stopRange).2.2 (.inr ?_)
  rintro ⟨first, last, start, -, -⟩
  exact absurd start.rounds (by decide)

/-- A day on a clock that is twenty seconds ahead. -/
def slightlyAhead : Interval :=
  ⟨⟨.atSecond 1704067200 (by decide), 20⟩, ⟨.atSecond 1704153600 (by decide), 20⟩, by decide⟩

theorem slightlyAhead_misread :
    new slightlyAhead.start slightlyAhead.stop = .ok slightlyAhead ∧
      slightlyAhead.text = "2024-01-01T00:00:20+00:00/2024-01-02T00:00:20+00:00" ∧
      slightlyAhead.isCanonical = false ∧
      ∃ j, parse slightlyAhead.text = .ok j ∧ j.isCanonical = true ∧
        j.same slightlyAhead = false := by
  refine ⟨rfl, by decide +kernel, rfl, ?_⟩
  exact ⟨⟨⟨.atSecond 1704067220 (by decide), 0⟩, ⟨.atSecond 1704153620 (by decide), 0⟩,
    by decide⟩, by decide +kernel, rfl, rfl⟩

end SeriesCatalog.Interval
