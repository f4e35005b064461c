import SeriesCatalog.Proofs.IntervalText

/-! # Intervals told apart by their literals

The literal of an interval in UTC names the instants that it shows over the whole calendar. No
endpoint is read when its year has a sign, but each part of its text can still be taken off the head
of what is left: the year up to the first dash, months and days in two digits, and the clock time
with its fraction. So equal literals have equal parts. A leap second that ends a minute is shown as
second 60 and is like no other second, while one within a minute looks like the second after it.
-/

namespace SeriesCatalog

open Text

namespace Calendar

namespace Date

/-- Plain or not, what is written for a year is a year that can be read. -/
theorem exists_year (year : Int) : ∃ f : YearForm, f.text = yearText year ∧ f.value = year := by
  by_cases plain : 0 ≤ year ∧ year ≤ 9999
  · refine ⟨.plain (.fixed 4 year.toNat (by decide)) (by simp [Numeral.fixed]), ?_, ?_⟩
    · rw [yearText_plain plain]
      rfl
    · simp only [YearForm.value, Numeral.value, Numeral.fixed, digitsValue_fixedNumeral]
      omega
  · refine ⟨.signed (decide (year < 0)) ⟨_, paddedNumeral_ne_nil 4 year.natAbs,
      isDigit_paddedNumeral⟩, ?_, ?_⟩
    · rw [yearText, if_neg plain]
      simp [YearForm.text]
    · simp only [YearForm.value, Numeral.value, digitsValue_paddedNumeral, decide_eq_true_eq]
      omega

theorem readYear?_yearText (year : Int) (rest : List Char) :
    readYear? (yearText year ++ '-' :: rest) = some (year, '-' :: rest) := by
  obtain ⟨form, shown, value⟩ := exists_year year
  rw [← shown, form.readYear?_text DateForm.dash_stops, value]

variable {a b : Date} {rest rest' : List Char}

theorem text_append_inj (valid : a.isValid = true) (valid' : b.isValid = true)
    (same : a.text ++ rest = b.text ++ rest') : a = b ∧ rest = rest' := by
  have small := isValid_bounds valid
  have small' := isValid_bounds valid'
  simp only [text, List.append_assoc, List.cons_append] at same
  have years := congrArg readYear? same
  rw [readYear?_yearText, readYear?_yearText] at years
  simp only [Option.some.injEq, Prod.mk.injEq, List.cons.injEq, true_and] at years
  obtain ⟨year, same⟩ := years
  have months := congrArg twoDigits? same
  rw [twoDigits?_fixedNumeral small.1, twoDigits?_fixedNumeral small'.1] at months
  simp only [Option.some.injEq, Prod.mk.injEq, List.cons.injEq, true_and] at months
  obtain ⟨month, same⟩ := months
  have days := congrArg twoDigits? same
  rw [twoDigits?_fixedNumeral small.2, twoDigits?_fixedNumeral small'.2] at days
  simp only [Option.some.injEq, Prod.mk.injEq] at days
  obtain ⟨day, same⟩ := days
  refine ⟨?_, same⟩
  cases a
  cases b
  simp only [Date.mk.injEq]
  exact ⟨year, month, day⟩

end Date

namespace Timestamp

theorem readClock?_clockText {second nanos : Nat} (inDay : second < 86400)
    (inSecond : nanos < 1000000000 ∨ (nanos < 2000000000 ∧ second % 60 = 59)) {c : Char}
    (stops : Stops c) (rest : List Char) :
    readClock? (clockText second nanos ++ c :: rest) = some (second, nanos, c :: rest) := by
  obtain ⟨form, shown, sameSecond, sameNanos⟩ := exists_time inDay inSecond
  rw [← shown, form.readClock?_text stops, sameSecond, sameNanos]

theorem text_utc {t : Timestamp} (utc : t.offset = 0) :
    t.text .letter = (Date.ofDayNumber (t.instant.displayed.seconds / 86400)).text ++
      'T' :: (clockText (t.instant.displayed.seconds % 86400).toNat t.instant.displayed.nanos ++
        ['Z']) := by
  rw [text_shown (shown_utc utc), utc]
  rfl

theorem readClock?_settled {t : Instant} (settled : ¬ t.IsStray) :
    readClock? (clockText (t.seconds % 86400).toNat t.nanos ++ ['Z']) =
      some ((t.seconds % 86400).toNat, t.nanos, ['Z']) := by
  have inSecond := t.nanos_lt
  rw [Instant.isStray_iff] at settled
  apply readClock?_clockText
  · omega
  · omega
  · exact ⟨rfl, by decide⟩

theorem eq_of_instant {a b : Timestamp} (utc : a.offset = 0) (utc' : b.offset = 0)
    (same : a.instant = b.instant) : a = b := by
  cases a
  cases b
  simp only [Timestamp.mk.injEq]
  exact ⟨same, utc.trans utc'.symm⟩

theorem text_eq_iff {a b : Timestamp} (utc : a.offset = 0) (utc' : b.offset = 0) :
    a.text .letter = b.text .letter ↔ a.instant.displayed = b.instant.displayed := by
  rw [text_utc utc, text_utc utc']
  have settled := a.instant.not_isStray_displayed
  have settled' := b.instant.not_isStray_displayed
  generalize a.instant.displayed = first at settled
  generalize b.instant.displayed = second at settled'
  constructor
  · intro same
    obtain ⟨date, same⟩ := Date.text_append_inj (Date.isValid_ofDayNumber _)
      (Date.isValid_ofDayNumber _) same
    have day := congrArg Date.dayNumber date
    rw [Date.dayNumber_ofDayNumber, Date.dayNumber_ofDayNumber] at day
    have clock := congrArg readClock? (List.cons.inj same).2
    rw [readClock?_settled settled, readClock?_settled settled'] at clock
    simp only [Option.some.injEq, Prod.mk.injEq, and_true] at clock
    obtain ⟨secondOfDay, nanos⟩ := clock
    have seconds : first.seconds = second.seconds := by omega
    exact Instant.eq_of_parts seconds nanos
  · rintro rfl
    rfl

end Timestamp

end Calendar

namespace Interval

open Calendar

variable {a b : Interval}

theorem eq_of_ends (start : a.start = b.start) (stop : a.stop = b.stop) : a = b := by
  cases a
  cases b
  simp only [Interval.mk.injEq]
  exact ⟨start, stop⟩

theorem text_eq_text_iff :
    a.text = b.text ↔
      a.start.text .letter = b.start.text .letter ∧ a.stop.text .letter = b.stop.text .letter := by
  constructor
  · intro same
    have halves := halves_text a
    rw [same, halves_text b] at halves
    simp only [Option.some.injEq, Prod.mk.injEq] at halves
    exact ⟨halves.1.symm, halves.2.symm⟩
  · rintro ⟨start, stop⟩
    rw [text, text, start, stop]

theorem same_iff_eq (canonical : a.isCanonical = true) (canonical' : b.isCanonical = true) :
    a.same b = true ↔ a = b := by
  obtain ⟨start, stop⟩ := isCanonical_iff.1 canonical
  obtain ⟨start', stop'⟩ := isCanonical_iff.1 canonical'
  constructor
  · intro kept
    simp only [same, Bool.and_eq_true, beq_iff_eq] at kept
    obtain ⟨⟨startSame, stopSame⟩, -⟩ := kept
    apply eq_of_ends
    · exact Timestamp.eq_of_instant start start' startSame
    · exact Timestamp.eq_of_instant stop stop' stopSame
  · rintro rfl
    exact same_refl a

/-- Intervals in UTC are the same exactly if their literals are and they do not differ in which of
their endpoints are leap seconds within a minute. -/
theorem same_iff_text_eq (canonical : a.isCanonical = true) (canonical' : b.isCanonical = true) :
    a.same b = true ↔
      a.text = b.text ∧ (a.start.instant.IsStray ↔ b.start.instant.IsStray) ∧
        (a.stop.instant.IsStray ↔ b.stop.instant.IsStray) := by
  obtain ⟨start, stop⟩ := isCanonical_iff.1 canonical
  obtain ⟨start', stop'⟩ := isCanonical_iff.1 canonical'
  rw [same_iff_eq canonical canonical', text_eq_text_iff, Timestamp.text_eq_iff start start',
    Timestamp.text_eq_iff stop stop']
  constructor
  · rintro rfl
    exact ⟨⟨rfl, rfl⟩, .rfl, .rfl⟩
  · rintro ⟨⟨startShown, stopShown⟩, startAgrees, stopAgrees⟩
    apply eq_of_ends
    · exact Timestamp.eq_of_instant start start' (Instant.eq_of_displayed_eq startAgrees startShown)
    · exact Timestamp.eq_of_instant stop stop' (Instant.eq_of_displayed_eq stopAgrees stopShown)

/-- From the leap second that ends year -2 into year 10000. -/
def fromLeapSecond : Interval :=
  ⟨⟨⟨-62198755201, 1000000000, by decide, by decide⟩, 0⟩,
    ⟨⟨253402300801, 1000, by decide, by decide⟩, 0⟩, by decide⟩

/-- From the midnight that follows that leap second. -/
def fromMidnight : Interval :=
  ⟨⟨.atSecond (-62198755200) (by decide), 0⟩,
    ⟨⟨253402300801, 1000, by decide, by decide⟩, 0⟩, by decide⟩

theorem leapSecond_told_apart :
    fromLeapSecond.isCanonical = true ∧ fromMidnight.isCanonical = true ∧
      fromLeapSecond.text = "-0002-12-31T23:59:60Z/+10000-01-01T00:00:01.000001Z" ∧
      (fromLeapSecond.same fromMidnight = true ↔ fromLeapSecond.text = fromMidnight.text) ∧
      fromLeapSecond.text ≠ fromMidnight.text := by
  have canonical : fromLeapSecond.isCanonical = true := rfl
  have canonical' : fromMidnight.isCanonical = true := rfl
  have agree := same_iff_text_eq canonical canonical'
  have settled : (fromLeapSecond.start.instant.IsStray ↔ fromMidnight.start.instant.IsStray) ∧
      (fromLeapSecond.stop.instant.IsStray ↔ fromMidnight.stop.instant.IsStray) := by
    decide
  rw [and_iff_left settled] at agree
  refine ⟨canonical, canonical', by decide +kernel, agree, fun equal => ?_⟩
  exact absurd (agree.2 equal) (by decide)

theorem stray_looks_shown :
    fromStray.isCanonical = true ∧ fromShown.isCanonical = true ∧
      fromStray.text = fromShown.text ∧ fromStray.same fromShown = false := by
  refine ⟨rfl, rfl, by decide +kernel, rfl⟩

end Interval

end SeriesCatalog
