import SeriesCatalog.Calendar.Instant

/-! # Laws of the calendar

Every day number belongs to exactly one date: the date it leads to exists and leads back to it. The
year of an instant lies in a range of years exactly when its second lies between their ends.
-/

namespace SeriesCatalog.Calendar

theorem monthLengths_length (leap : Bool) : (monthLengths leap).length = 12 := rfl

theorem monthLengths_le (leap : Bool) : ∀ length ∈ monthLengths leap, length ≤ 31 := by
  cases leap <;> decide

theorem daysBeforeYear_succ (year : Int) :
    daysBeforeYear (year + 1) =
      daysBeforeYear year + (totalDays (monthLengths (isLeapYear year)) : Nat) := by
  -- What is left of each case is linear in the quotients of the year by 4, 100 and 400.
  cases leap : isLeapYear year with
  | true =>
    have length : totalDays (monthLengths true) = 366 := rfl
    simp only [isLeapYear, Bool.and_eq_true, Bool.or_eq_true, beq_iff_eq, bne_iff_ne] at leap
    rw [length]
    unfold daysBeforeYear
    omega
  | false =>
    have length : totalDays (monthLengths false) = 365 := rfl
    simp only [isLeapYear, Bool.and_eq_false_iff, Bool.or_eq_false_iff, beq_eq_false_iff_ne,
      bne_eq_false_iff_eq] at leap
    rw [length]
    unfold daysBeforeYear
    omega

theorem daysBeforeYear_mono {a b : Int} (ordered : a ≤ b) :
    daysBeforeYear a ≤ daysBeforeYear b := by
  unfold daysBeforeYear
  omega

/-- The estimate by the mean length of a year is never off by more than one. -/
theorem yearOfDays_spec (days : Int) :
    daysBeforeYear (yearOfDays days) ≤ days ∧ days < daysBeforeYear (yearOfDays days + 1) := by
  have early : daysBeforeYear (400 * days / 146097 + 1 - 1) ≤ days := by
    unfold daysBeforeYear
    omega
  have late : days < daysBeforeYear (400 * days / 146097 + 1 + 1 + 1) := by
    unfold daysBeforeYear
    omega
  simp only [yearOfDays]
  split
  · rename_i before
    exact ⟨early, by rwa [Int.sub_add_cancel]⟩
  · split
    · rename_i after
      exact ⟨after, late⟩
    · omega

theorem yearOfDays_le_iff {days year : Int} :
    yearOfDays days ≤ year ↔ days < daysBeforeYear (year + 1) := by
  obtain ⟨first, last⟩ := yearOfDays_spec days
  constructor
  · intro ordered
    have grown := daysBeforeYear_mono (Int.add_le_add_right ordered 1)
    omega
  · intro inside
    refine Int.not_lt.1 fun later => ?_
    have grown := daysBeforeYear_mono later
    omega

theorem le_yearOfDays_iff {days year : Int} :
    year ≤ yearOfDays days ↔ daysBeforeYear year ≤ days := by
  have below : yearOfDays days ≤ year - 1 ↔ days < daysBeforeYear (year - 1 + 1) :=
    yearOfDays_le_iff
  rw [Int.sub_add_cancel] at below
  omega

/-- The walk stops in the month that holds the day; the days of the earlier months are taken off. -/
theorem walkMonths_spec {lengths : List Nat} {month day m d : Nat}
    (inside : day < totalDays lengths) (walked : walkMonths lengths month day = (m, d)) :
    ∃ earlier, m = month + earlier ∧ earlier < lengths.length ∧
      1 ≤ d ∧ d ≤ lengths.getD earlier 0 ∧ totalDays (lengths.take earlier) + d = day + 1 := by
  -- The month and the day move along with the lengths that are left.
  induction lengths generalizing month day with
  | nil => exact absurd inside (Nat.not_lt_zero day)
  | cons length rest ih =>
    rw [walkMonths] at walked
    rw [totalDays] at inside
    by_cases here : day < length
    · rw [if_pos here] at walked
      cases walked
      refine ⟨0, rfl, Nat.zero_lt_succ _, Nat.succ_le_succ (Nat.zero_le day), here, ?_⟩
      rw [List.take_zero, totalDays, Nat.zero_add]
    · rw [if_neg here] at walked
      obtain ⟨earlier, sameMonth, isMonth, first, last, total⟩ := ih (by omega) walked
      refine ⟨earlier + 1, by omega, Nat.succ_lt_succ isMonth, first, last, ?_⟩
      rw [List.take_succ_cons, totalDays]
      omega

theorem totalDays_take_succ (lengths : List Nat) (count : Nat) :
    totalDays (lengths.take (count + 1)) =
      totalDays (lengths.take count) + lengths.getD count 0 := by
  induction lengths generalizing count with
  | nil => simp [totalDays]
  | cons length rest ih =>
    rw [List.take_succ_cons, totalDays]
    cases count with
    | zero => simp [totalDays]
    | succ count => simp [totalDays, ih, Nat.add_assoc]

theorem totalDays_take_le (lengths : List Nat) (count : Nat) :
    totalDays (lengths.take count) ≤ totalDays lengths := by
  induction lengths generalizing count with
  | nil => simp
  | cons length rest ih =>
    cases count with
    | zero => exact Nat.zero_le _
    | succ count => exact Nat.add_le_add_left (ih count) length

theorem daysBeforeMonth_succ (leap : Bool) {month : Nat} (first : 1 ≤ month) :
    daysBeforeMonth leap (month + 1) = daysBeforeMonth leap month + monthLength leap month := by
  have before : month + 1 - 1 = month - 1 + 1 := by omega
  rw [daysBeforeMonth, before, totalDays_take_succ, monthLength, if_neg (by omega)]
  rfl

theorem daysBeforeMonth_end (leap : Bool) :
    daysBeforeMonth leap (12 + 1) = totalDays (monthLengths leap) :=
  congrArg totalDays (List.take_of_length_le (Nat.le_of_eq (monthLengths_length leap)))

theorem monthLength_pos (leap : Bool) : ∀ month < 13, 1 ≤ month → 1 ≤ monthLength leap month := by
  cases leap <;> decide

namespace Date

/-- A day number leads to the year it lies in, to a month of it and to a day of that month. -/
theorem ofDayNumber_spec (number : Int) :
    (ofDayNumber number).year = yearOfDays (number + daysBeforeEpoch) ∧
      (ofDayNumber number).isValid = true ∧ (ofDayNumber number).dayNumber = number := by
  generalize same : ofDayNumber number = date
  obtain ⟨first, last⟩ := yearOfDays_spec (number + daysBeforeEpoch)
  rw [daysBeforeYear_succ] at last
  unfold ofDayNumber at same
  simp only at same
  -- The arithmetic below needs the year and the walk only through their specifications.
  generalize yearOfDays (number + daysBeforeEpoch) = year at same first last ⊢
  generalize walked : walkMonths _ 1 _ = found at same
  obtain ⟨month, day⟩ := found
  subst same
  obtain ⟨earlier, sameMonth, isMonth, firstDay, lastDay, total⟩ :=
    walkMonths_spec (by omega) walked
  have monthBefore : month - 1 = earlier := by omega
  refine ⟨rfl, ?_, ?_⟩
  · have notZero : month ≠ 0 := by omega
    have bound : month ≤ 12 := by
      rw [monthLengths_length] at isMonth
      omega
    simp only [isValid, monthLength, if_neg notZero, monthBefore, Bool.and_eq_true,
      decide_eq_true_eq]
    omega
  · simp only [dayNumber, daysBeforeMonth, monthBefore]
    omega

theorem year_ofDayNumber (number : Int) :
    (ofDayNumber number).year = yearOfDays (number + daysBeforeEpoch) :=
  (ofDayNumber_spec number).1

theorem isValid_ofDayNumber (number : Int) : (ofDayNumber number).isValid = true :=
  (ofDayNumber_spec number).2.1

@[simp] theorem dayNumber_ofDayNumber (number : Int) : (ofDayNumber number).dayNumber = number :=
  (ofDayNumber_spec number).2.2

theorem isValid_bounds {d : Date} (valid : d.isValid = true) : d.month < 100 ∧ d.day < 100 := by
  simp only [isValid, Bool.and_eq_true, decide_eq_true_eq] at valid
  have bound : monthLength (isLeapYear d.year) d.month ≤ 31 := by
    unfold monthLength
    split
    · omega
    · rw [List.getD_eq_getElem?_getD]
      cases found : (monthLengths (isLeapYear d.year))[d.month - 1]? with
      | none => exact Nat.zero_le 31
      | some length => exact monthLengths_le _ length (List.mem_of_getElem? found)
  omega

theorem isValid_iff {d : Date} :
    d.isValid = true ↔ (1 ≤ d.month ∧ d.month ≤ 12) ∧
      1 ≤ d.day ∧ d.day ≤ monthLength (isLeapYear d.year) d.month := by
  simp only [isValid, Bool.and_eq_true, decide_eq_true_eq]
  omega

/-- A date lies between the first day of its year and that of the year after. -/
theorem dayNumber_bounds {d : Date} (valid : d.isValid = true) :
    daysBeforeYear d.year ≤ d.dayNumber + daysBeforeEpoch ∧
      d.dayNumber + daysBeforeEpoch < daysBeforeYear (d.year + 1) := by
  obtain ⟨⟨firstMonth, -⟩, firstDay, lastDay⟩ := isValid_iff.1 valid
  have monthEnd := daysBeforeMonth_succ (isLeapYear d.year) firstMonth
  have inYear : daysBeforeMonth (isLeapYear d.year) (d.month + 1) ≤
      totalDays (monthLengths (isLeapYear d.year)) := totalDays_take_le _ _
  rw [daysBeforeYear_succ, dayNumber]
  omega

def next (d : Date) : Date :=
  if d.day < monthLength (isLeapYear d.year) d.month then ⟨d.year, d.month, d.day + 1⟩
  else if d.month < 12 then ⟨d.year, d.month + 1, 1⟩
  else ⟨d.year + 1, 1, 1⟩

theorem dayNumber_next {d : Date} (valid : d.isValid = true) :
    d.next.isValid = true ∧ d.next.dayNumber = d.dayNumber + 1 := by
  obtain ⟨⟨firstMonth, lastMonth⟩, firstDay, lastDay⟩ := isValid_iff.1 valid
  have monthEnd := daysBeforeMonth_succ (isLeapYear d.year) firstMonth
  rw [isValid_iff]
  unfold next
  split
  · rename_i inMonth
    refine ⟨⟨⟨firstMonth, lastMonth⟩, Nat.succ_pos _, inMonth⟩, ?_⟩
    simp only [dayNumber]
    omega
  · rename_i monthOver
    split
    · rename_i inYear
      have length := monthLength_pos (isLeapYear d.year) (d.month + 1) (by omega) (by omega)
      refine ⟨⟨by simp only; omega, Nat.le_refl 1, length⟩, ?_⟩
      simp only [dayNumber, monthEnd]
      omega
    · have december : d.month = 12 := by omega
      have length := monthLength_pos (isLeapYear (d.year + 1)) 1 (by decide) (by decide)
      have yearEnd := daysBeforeMonth_end (isLeapYear d.year)
      have newYear : daysBeforeMonth (isLeapYear (d.year + 1)) 1 = 0 := rfl
      rw [december] at monthEnd lastDay monthOver
      refine ⟨⟨⟨Nat.le_refl 1, by simp only; omega⟩, Nat.le_refl 1, length⟩, ?_⟩
      simp only [dayNumber, daysBeforeYear_succ, newYear, december]
      omega

/-- The years with four digits and no sign, by the seconds from the first of them to the last. -/
theorem plainYear_iff {seconds : Int} :
    (0 ≤ (ofDayNumber (seconds / 86400)).year ∧ (ofDayNumber (seconds / 86400)).year ≤ 9999) ↔
      -62167219200 ≤ seconds ∧ seconds ≤ 253402300799 := by
  have first : daysBeforeYear 0 = -366 := rfl
  have last : daysBeforeYear (9999 + 1) = 3652059 := rfl
  rw [year_ofDayNumber, yearOfDays_le_iff, le_yearOfDays_iff, first, last, daysBeforeEpoch]
  omega

end Date

namespace Instant

theorem eq_of_parts {a b : Instant} (seconds : a.seconds = b.seconds) (nanos : a.nanos = b.nanos) :
    a = b := by
  cases a
  cases b
  simp only [Instant.mk.injEq]
  exact ⟨seconds, nanos⟩

def year (t : Instant) : Int :=
  (Date.ofDayNumber (t.seconds / 86400)).year

/-- The year is written with four digits and no sign. -/
def HasPlainYear (t : Instant) : Prop :=
  0 ≤ t.year ∧ t.year ≤ 9999

instance (t : Instant) : Decidable t.HasPlainYear :=
  inferInstanceAs (Decidable (0 ≤ t.year ∧ t.year ≤ 9999))

/-- Plain years last from 0000-01-01T00:00:00Z to 9999-12-31T23:59:59Z and its leap second. -/
theorem hasPlainYear_iff {t : Instant} :
    t.HasPlainYear ↔ -62167219200 ≤ t.seconds ∧ t.seconds ≤ 253402300799 :=
  Date.plainYear_iff

end Instant

end SeriesCatalog.Calendar
