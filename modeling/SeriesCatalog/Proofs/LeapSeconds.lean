import SeriesCatalog.Proofs.Dates

/-! # Leap seconds within a minute

A clock shows a leap second as second 60, which follows the last second of a minute. A leap second
anywhere else has no number of its own and looks like the second after it. So what is shown is never
a leap second within a minute, and of two different instants that look alike one is.
-/

namespace SeriesCatalog.Calendar.Instant

/-- A leap second within a minute of UTC, and not at its end. -/
def IsStray (t : Instant) : Prop :=
  t.isLeap = true ∧ t.seconds % 60 ≠ 59

instance (t : Instant) : Decidable t.IsStray :=
  inferInstanceAs (Decidable (_ ∧ _))

variable {a b t : Instant}

theorem isStray_iff : t.IsStray ↔ 1000000000 ≤ t.nanos ∧ t.seconds % 60 ≠ 59 := by
  simp [IsStray, isLeap]

/-- The last second of the calendar ends a minute, so another one follows that does not. -/
theorem next_inCalendar (stray : t.IsStray) :
    firstSecond ≤ t.seconds + 1 ∧ t.seconds + 1 ≤ lastSecond := by
  have inCalendar := t.inCalendar
  have early := stray.2
  unfold firstSecond lastSecond at *
  omega

/-- The instant that a clock in UTC shows, which is the next second for a stray leap second. -/
def displayed (t : Instant) : Instant :=
  if stray : t.IsStray then
    ⟨t.seconds + 1, t.nanos - 1000000000, next_inCalendar stray, by have := t.nanos_lt; omega⟩
  else t

theorem displayed_stray (stray : t.IsStray) :
    t.displayed.seconds = t.seconds + 1 ∧ t.displayed.nanos = t.nanos - 1000000000 := by
  rw [displayed, dif_pos stray]
  exact ⟨rfl, rfl⟩

theorem displayed_settled (settled : ¬ t.IsStray) : t.displayed = t :=
  dif_neg settled

theorem not_isStray_displayed (t : Instant) : ¬ t.displayed.IsStray := by
  by_cases stray : t.IsStray
  · obtain ⟨-, nanos⟩ := displayed_stray stray
    have inSecond := t.nanos_lt
    rw [isStray_iff]
    omega
  · rwa [displayed_settled stray]

theorem displayed_eq_iff : t.displayed = t ↔ ¬ t.IsStray := by
  constructor
  · intro same
    rw [← same]
    exact not_isStray_displayed t
  · exact displayed_settled

/-- No year begins within a minute. -/
theorem hasPlainYear_displayed : t.displayed.HasPlainYear ↔ t.HasPlainYear := by
  by_cases stray : t.IsStray
  · obtain ⟨seconds, -⟩ := displayed_stray stray
    have early := stray.2
    rw [hasPlainYear_iff, hasPlainYear_iff]
    omega
  · rw [displayed_settled stray]

theorem eq_of_displayed_eq (agree : a.IsStray ↔ b.IsStray) (same : a.displayed = b.displayed) :
    a = b := by
  by_cases stray : a.IsStray
  · have stray' := agree.1 stray
    obtain ⟨seconds, nanos⟩ := displayed_stray stray
    obtain ⟨seconds', nanos'⟩ := displayed_stray stray'
    have leap := (isStray_iff.1 stray).1
    have leap' := (isStray_iff.1 stray').1
    rw [same] at seconds nanos
    apply eq_of_parts <;> omega
  · rwa [displayed_settled stray, displayed_settled fun other => stray (agree.2 other)] at same

end SeriesCatalog.Calendar.Instant
