import SeriesCatalog.Proofs.EndpointReading

/-! # Timestamps read back from their text

The text of a timestamp shows the local time with its seconds and the offset in whole minutes. It is
the text of a date-time when the local year is plain, and in UTC that date-time denotes the instant
that is shown. The sign of any other year keeps it from being a date-time, and the clock time behind
it keeps it from being a bare date, so that such a text is no endpoint at all.
-/

namespace SeriesCatalog.Calendar

open Text

namespace Date

theorem yearText_signed {year : Int} (signed : ¬ (0 ≤ year ∧ year ≤ 9999)) :
    ∃ sign, (sign = '-' ∨ sign = '+') ∧ yearText year = sign :: paddedNumeral 4 year.natAbs := by
  rw [yearText, if_neg signed]
  by_cases negative : year < 0
  · exact ⟨'-', .inl rfl, by rw [if_pos negative]⟩
  · exact ⟨'+', .inr rfl, by rw [if_neg negative]⟩

end Date

def Numeral.fixed (width n : Nat) (wide : width ≠ 0) : Numeral where
  digits := fixedNumeral width n
  nonempty := by
    intro none
    have length := length_fixedNumeral width n
    rw [none] at length
    exact wide length.symm
  decimal := isDigit_fixedNumeral width n

theorem Fraction.nanos_fixed {width n : Nat} (wide : width ≠ 0) (short : width ≤ 9)
    (small : n < 10 ^ width) :
    Fraction.nanos (some (.fixed width n wide)) = n * 10 ^ (9 - width) := by
  have split : 10 ^ 9 = 10 ^ (9 - width) * 10 ^ width := by
    rw [← Nat.pow_add, Nat.sub_add_cancel short]
  rw [nanos, Numeral.value, Numeral.fixed, digitsValue_fixedNumeral, length_fixedNumeral,
    Nat.mod_eq_of_lt small, split, ← Nat.mul_assoc, Nat.mul_div_cancel _ (Nat.pow_pos (by decide))]

theorem exists_fraction {nanos : Nat} (small : nanos < 1000000000) :
    ∃ f : Fraction, f.text = Timestamp.fractionText nanos ∧ f.nanos = nanos := by
  unfold Timestamp.fractionText
  split
  · rename_i zero
    exact ⟨none, rfl, zero.symm⟩
  · split
    · refine ⟨some (.fixed 3 (nanos / 1000000) (by decide)), rfl, ?_⟩
      rw [Fraction.nanos_fixed _ (by decide) (by omega)]
      omega
    · split
      · refine ⟨some (.fixed 6 (nanos / 1000) (by decide)), rfl, ?_⟩
        rw [Fraction.nanos_fixed _ (by decide) (by omega)]
        omega
      · refine ⟨some (.fixed 9 nanos (by decide)), rfl, ?_⟩
        rw [Fraction.nanos_fixed _ (by decide) (by omega)]
        omega

theorem exists_time {second nanos : Nat} (inDay : second < 86400)
    (inSecond : nanos < 1000000000 ∨ (nanos < 2000000000 ∧ second % 60 = 59)) :
    ∃ f : TimeForm, f.text = Timestamp.clockText second nanos ∧ f.secondOfDay = second ∧
      f.nanos = nanos := by
  by_cases leap : 1000000000 ≤ nanos
  · -- A leap second is shown as second 60, which denotes 59 and a second more.
    have last : second % 60 = 59 := by omega
    have small : nanos - 1000000000 < 1000000000 := by omega
    obtain ⟨fraction, shown, value⟩ := exists_fraction small
    refine ⟨⟨second / 3600, second / 60 % 60, 60, fraction, by omega⟩, ?_, ?_, ?_⟩
    · rw [Timestamp.clockText, if_pos leap, if_pos leap, last]
      simp only [TimeForm.text, shown, List.append_assoc, List.cons_append]
    · simp only [TimeForm.secondOfDay]
      omega
    · rw [TimeForm.nanos, value, if_pos rfl, Nat.sub_add_cancel leap]
  · have small : nanos < 1000000000 := by omega
    obtain ⟨fraction, shown, value⟩ := exists_fraction small
    refine ⟨⟨second / 3600, second / 60 % 60, second % 60, fraction, by omega⟩, ?_, ?_, ?_⟩
    · rw [Timestamp.clockText, if_neg leap, if_neg leap]
      simp only [TimeForm.text, shown, List.append_assoc, List.cons_append, Nat.add_zero]
    · simp only [TimeForm.secondOfDay]
      omega
    · have plain : second % 60 ≠ 60 := by omega
      rw [TimeForm.nanos, value, if_neg plain, Nat.add_zero]

theorem exists_zone {offset : Int} (small : offset.natAbs < 30) :
    ∃ z : ZoneForm, z.text = Timestamp.offsetText .letter offset ∧ z.offset = 0 := by
  have minutes : (offset.natAbs + 30) / 60 = 0 := by omega
  unfold Timestamp.offsetText
  split
  · exact ⟨.letter false, rfl, rfl⟩
  · rw [minutes]
    split
    · exact ⟨.shifted .hyphen 0 0 (by decide), rfl, rfl⟩
    · exact ⟨.shifted .plus 0 0 (by decide), rfl, rfl⟩

namespace Timestamp

/-- Seconds since the epoch on a clock that shows local time. -/
def localSeconds (t : Timestamp) : Int :=
  t.instant.seconds + t.offset

/-- The local year is written with four digits and no sign. -/
def HasPlainLocalYear (t : Timestamp) : Prop :=
  0 ≤ (Date.ofDayNumber (t.localSeconds / 86400)).year ∧
    (Date.ofDayNumber (t.localSeconds / 86400)).year ≤ 9999

theorem text_eq (t : Timestamp) :
    t.text .letter = (Date.ofDayNumber (t.localSeconds / 86400)).text ++
      'T' :: (clockText (t.localSeconds % 86400).toNat t.instant.nanos ++
        offsetText .letter t.offset) := by
  simp only [text, localSeconds, List.append_assoc, List.cons_append]

/-- The second and the nanoseconds that the local clock shows. Second 60 is shown at the end of a
local minute only; elsewhere a leap second looks like the second after it. -/
def shown (t : Timestamp) : Int × Nat :=
  if t.instant.isLeap = true ∧ t.localSeconds % 60 ≠ 59 then
    (t.localSeconds + 1, t.instant.nanos - 1000000000)
  else (t.localSeconds, t.instant.nanos)

theorem clockText_early {second nanos : Nat} (leap : 1000000000 ≤ nanos) (lt : nanos < 2000000000)
    (early : second % 60 ≠ 59) :
    clockText second nanos = clockText (second + 1) (nanos - 1000000000) := by
  have noLeap : ¬ 1000000000 ≤ nanos - 1000000000 := by omega
  have hour : (second + 1) / 3600 = second / 3600 := by omega
  have minute : (second + 1) / 60 % 60 = second / 60 % 60 := by omega
  have next : (second + 1) % 60 + 0 = second % 60 + 1 := by omega
  simp only [clockText, if_pos leap, if_neg noLeap, hour, minute, next]

/-- The text looks like that of an instant in UTC, with an offset of zero. -/
structure Shows (t : Timestamp) (u : Instant) : Prop where
  rounds : t.offset.natAbs < 30
  plain : u.HasPlainYear
  clock : t.shown = (u.seconds, u.nanos)

variable {t : Timestamp} {u : Instant}

theorem text_shown (clock : t.shown = (u.seconds, u.nanos)) :
    t.text .letter = (Date.ofDayNumber (u.seconds / 86400)).text ++
      'T' :: (clockText (u.seconds % 86400).toNat u.nanos ++ offsetText .letter t.offset) := by
  have leapLt := t.instant.nanos_lt
  unfold shown Instant.isLeap at clock
  rw [text_eq]
  split at clock
  · rename_i moved
    simp only [decide_eq_true_eq] at moved
    simp only [Prod.mk.injEq] at clock
    have day : u.seconds / 86400 = t.localSeconds / 86400 := by omega
    have second : (u.seconds % 86400).toNat = (t.localSeconds % 86400).toNat + 1 := by omega
    rw [day, second, ← clock.2, clockText_early moved.1 (by omega) (by omega)]
  · simp only [Prod.mk.injEq] at clock
    rw [clock.1, clock.2]

theorem not_isStray_shown (clock : t.shown = (u.seconds, u.nanos)) : ¬ u.IsStray := by
  have inSecond := t.instant.nanos_lt
  unfold shown at clock
  rw [Instant.isStray_iff]
  split at clock
  · simp only [Prod.mk.injEq] at clock
    omega
  · rename_i settled
    simp only [Instant.isLeap, decide_eq_true_eq] at settled
    simp only [Prod.mk.injEq] at clock
    rwa [← clock.1, ← clock.2]

theorem exists_form (shows : t.Shows u) :
    ∃ f : DateTimeForm, f.text = t.text .letter ∧ f.timestamp = ⟨u, 0⟩ := by
  have inSecond := u.nanos_lt
  have settled := not_isStray_shown shows.clock
  rw [Instant.isStray_iff] at settled
  have inDay : (u.seconds % 86400).toNat < 86400 := by omega
  have inMinute : u.nanos < 1000000000 ∨
      (u.nanos < 2000000000 ∧ (u.seconds % 86400).toNat % 60 = 59) := by omega
  obtain ⟨time, clock, second, nanos⟩ := exists_time inDay inMinute
  obtain ⟨zone, offset, zero⟩ := exists_zone shows.rounds
  refine ⟨⟨.ofDayNumber (u.seconds / 86400), 'T', time, zone,
    Date.isValid_ofDayNumber _, shows.plain, .inl rfl⟩, ?_, ?_⟩
  · rw [text_shown shows.clock, DateTimeForm.text, clock, offset]
  · cases u
    simp only [DateTimeForm.timestamp, DateTimeForm.seconds, zero, Timestamp.mk.injEq,
      Instant.mk.injEq, Date.dayNumber_ofDayNumber, second, nanos, and_true]
    omega

theorem read?_shown (shows : t.Shows u) : read? (t.text .letter) = some ⟨u, 0⟩ := by
  obtain ⟨form, same, denoted⟩ := exists_form shows
  rw [← same, ← denoted]
  exact (Endpoint.dateTime form).read?_text

theorem eq_utc (utc : t.offset = 0) : (⟨t.instant, 0⟩ : Timestamp) = t := by
  rw [← utc]

theorem hasPlainLocalYear_utc (utc : t.offset = 0) :
    t.HasPlainLocalYear ↔ t.instant.HasPlainYear := by
  rw [HasPlainLocalYear, localSeconds, utc, Int.add_zero]
  rfl

theorem shown_utc (utc : t.offset = 0) :
    t.shown = (t.instant.displayed.seconds, t.instant.displayed.nanos) := by
  rw [shown, localSeconds, utc, Int.add_zero]
  split
  · rename_i stray
    obtain ⟨seconds, nanos⟩ := Instant.displayed_stray stray
    rw [seconds, nanos]
  · rename_i settled
    rw [Instant.displayed_settled settled]

/-- A timestamp of a plain year is read as the instant that its text shows, to the nanosecond. -/
theorem read?_text (utc : t.offset = 0) (plain : t.instant.HasPlainYear) :
    read? (t.text .letter) = some ⟨t.instant.displayed, 0⟩ :=
  read?_shown ⟨by rw [utc]; decide, Instant.hasPlainYear_displayed.2 plain, shown_utc utc⟩

theorem text_ne_date (t : Timestamp) (f : DateForm) : f.text ≠ t.text .letter := by
  intro same
  have letter : 'T' ∈ f.text := by
    rw [same, text_eq]
    exact List.mem_append_right _ List.mem_cons_self
  exact f.not_mem_text ⟨rfl, rfl, by decide, by decide⟩ letter

/-- A timestamp of any other year is not read at all, neither as a date and time nor as a date. -/
theorem read?_text_none (signed : ¬ t.HasPlainLocalYear) : read? (t.text .letter) = none := by
  rw [Endpoint.read?_eq_none_iff]
  intro endpoint same
  cases endpoint with
  | date form => exact t.text_ne_date form same
  | dateTime form =>
    -- One text starts with a digit, the other with the sign.
    obtain ⟨sign, isSign, year⟩ := Date.yearText_signed signed
    have first := congrArg List.head? same
    simp only [Endpoint.text, DateTimeForm.text, Date.text, Date.yearText_plain form.plain,
      text_eq, year, fixedNumeral, List.nil_append, List.cons_append, List.head?_cons,
      Option.some.injEq] at first
    have digit := isDigit_digit (form.date.year.toNat / 10 / 10 / 10)
    rw [first] at digit
    rcases isSign with rfl | rfl <;> cases digit

theorem exists_shows (rounds : t.offset.natAbs < 30) (plain : t.HasPlainLocalYear) :
    ∃ u, t.Shows u := by
  have inSecond := t.instant.nanos_lt
  have range := Date.plainYear_iff.1 plain
  by_cases moved : t.instant.isLeap = true ∧ t.localSeconds % 60 ≠ 59
  · have leap := moved.1
    simp only [Instant.isLeap, decide_eq_true_eq] at leap
    let u : Instant := ⟨t.localSeconds + 1, t.instant.nanos - 1000000000,
      by unfold firstSecond lastSecond; omega, by omega⟩
    refine ⟨u, rounds, Instant.hasPlainYear_iff.2 ?_, if_pos moved⟩
    change _ ≤ t.localSeconds + 1 ∧ t.localSeconds + 1 ≤ _
    omega
  · let u : Instant := ⟨t.localSeconds, t.instant.nanos,
      by unfold firstSecond lastSecond; omega, inSecond⟩
    exact ⟨u, rounds, Instant.hasPlainYear_iff.2 range, if_neg moved⟩

theorem fixedNumeral_zero {n : Nat} (same : fixedNumeral 2 0 = fixedNumeral 2 n) : n % 100 = 0 := by
  have value := congrArg digitsValue same
  rw [digitsValue_fixedNumeral, digitsValue_fixedNumeral] at value
  exact value.symm

theorem offsetText_shifted {offset : Int} (shifted : offset ≠ 0) :
    offsetText .letter offset = (if offset < 0 then '-' else '+') ::
      (fixedNumeral 2 ((offset.natAbs + 30) / 60 / 60) ++
        ':' :: fixedNumeral 2 ((offset.natAbs + 30) / 60 % 60)) := by
  rw [offsetText, if_neg fun none => shifted none.1]
  rfl

/-- A zone at the end of the text that denotes zero stands for an offset that rounds to zero. -/
theorem rounds_of_zone {z : ZoneForm} {before before' : List Char}
    (range : isOffset t.offset = true) (zero : z.offset = 0)
    (same : before ++ z.text = before' ++ offsetText .letter t.offset) :
    t.offset.natAbs < 30 := by
  by_cases utc : t.offset = 0
  · rw [utc]
    decide
  · rw [offsetText_shifted utc] at same
    cases z with
    | letter small =>
      -- One text ends with the letter, the other with a digit.
      have last := congrArg List.getLast? same
      simp only [ZoneForm.text, fixedNumeral, List.nil_append, List.cons_append,
        List.getLast?_append, List.getLast?_cons_cons, List.getLast?_singleton, Option.some_or,
        Option.some.injEq] at last
      have digit := isDigit_digit ((t.offset.natAbs + 30) / 60 % 60)
      rw [← last] at digit
      cases small <;> cases digit
    | shifted sign hours minutes inDay =>
      have none : hours = 0 ∧ minutes = 0 := by
        cases sign <;> simp only [ZoneForm.offset, OffsetSign.factor] at zero <;> omega
      obtain ⟨rfl, rfl⟩ := none
      obtain ⟨-, zone⟩ := List.append_inj' same (by simp [ZoneForm.text])
      obtain ⟨hour, minute⟩ := List.append_inj (List.cons.inj zone).2 (by simp)
      have noHour := fixedNumeral_zero hour
      have noMinute := fixedNumeral_zero (List.cons.inj minute).2
      simp only [isOffset, Bool.and_eq_true, decide_eq_true_eq] at range
      omega

theorem read?_text_utc_iff (range : isOffset t.offset = true) :
    read? (t.text .letter) = some ⟨u, 0⟩ ↔ t.Shows u := by
  refine ⟨fun read => ?_, read?_shown⟩
  have rounds : t.offset.natAbs < 30 := by
    obtain ⟨endpoint, same, denoted⟩ := Endpoint.of_read? read
    cases endpoint with
    | date form => exact absurd same (t.text_ne_date form)
    | dateTime form =>
      have zero : form.zone.offset = 0 := congrArg Timestamp.offset denoted
      have zone : (form.date.text ++ form.separator :: form.time.text) ++ form.zone.text =
          ((Date.ofDayNumber (t.localSeconds / 86400)).text ++
            'T' :: clockText (t.localSeconds % 86400).toNat t.instant.nanos) ++
            offsetText .letter t.offset := by
        rw [List.append_assoc, List.append_assoc]
        exact same.trans t.text_eq
      exact rounds_of_zone range zero zone
  have plain : t.HasPlainLocalYear := by
    by_contra signed
    rw [read?_text_none signed] at read
    cases read
  obtain ⟨v, shows⟩ := exists_shows rounds plain
  rw [read?_shown shows] at read
  cases read
  exact shows

/-- The character may stand in the text of a timestamp. -/
def Written (c : Char) : Prop :=
  isDigit c = true ∨ c ∈ ['-', '+', ':', '.', 'T', 'Z']

theorem Written.solid {c : Char} (written : Written c) : isBlank c = false ∧ c ≠ '/' := by
  rcases written with digit | mark
  · refine ⟨isBlank_digit digit, ?_⟩
    rintro rfl
    cases digit
  · simp only [List.mem_cons, List.not_mem_nil, or_false] at mark
    rcases mark with rfl | rfl | rfl | rfl | rfl | rfl <;> exact ⟨rfl, by decide⟩

theorem written_fixedNumeral {width n : Nat} : ∀ c ∈ fixedNumeral width n, Written c :=
  fun c member => .inl (isDigit_fixedNumeral _ _ c member)

theorem written_yearText (year : Int) : ∀ c ∈ Date.yearText year, Written c := by
  by_cases plain : 0 ≤ year ∧ year ≤ 9999
  · rw [Date.yearText_plain plain]
    exact written_fixedNumeral
  · obtain ⟨sign, isSign, signed⟩ := Date.yearText_signed plain
    rw [signed, List.forall_mem_cons]
    refine ⟨.inr ?_, fun c member => .inl (isDigit_paddedNumeral c member)⟩
    rcases isSign with rfl | rfl <;> decide

theorem written_fractionText (nanos : Nat) : ∀ c ∈ fractionText nanos, Written c := by
  have point : Written '.' := .inr (by decide)
  unfold fractionText
  split
  · exact List.forall_mem_nil _
  · split
    · exact List.forall_mem_cons.2 ⟨point, written_fixedNumeral⟩
    · split
      · exact List.forall_mem_cons.2 ⟨point, written_fixedNumeral⟩
      · exact List.forall_mem_cons.2 ⟨point, written_fixedNumeral⟩

theorem written_offsetText (offset : Int) : ∀ c ∈ offsetText .letter offset, Written c := by
  have colon : Written ':' := .inr (by decide)
  have sign : Written (if offset < 0 then '-' else '+') := by
    split <;> exact .inr (by decide)
  unfold offsetText
  split
  · exact List.forall_mem_singleton.2 (.inr (by decide))
  · simp only [List.forall_mem_append, List.forall_mem_cons]
    exact ⟨⟨sign, written_fixedNumeral⟩, colon, written_fixedNumeral⟩

theorem written_text (t : Timestamp) : ∀ c ∈ t.text .letter, Written c := by
  have dash : Written '-' := .inr (by decide)
  have colon : Written ':' := .inr (by decide)
  have separator : Written 'T' := .inr (by decide)
  rw [text_eq, Date.text, clockText]
  simp only [List.forall_mem_append, List.forall_mem_cons]
  exact ⟨⟨⟨written_yearText _, dash, written_fixedNumeral⟩, dash, written_fixedNumeral⟩, separator,
    ⟨⟨⟨written_fixedNumeral, colon, written_fixedNumeral⟩, colon, written_fixedNumeral⟩,
      written_fractionText _⟩, written_offsetText _⟩

end Timestamp

end SeriesCatalog.Calendar
