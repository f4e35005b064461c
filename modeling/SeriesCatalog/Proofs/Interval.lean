import SeriesCatalog.Interval

/-! # Laws of intervals

When an interval is canonical, when endpoints make one, and what its literal has to be.
-/

namespace SeriesCatalog.Interval

open Calendar

theorem isCanonical_iff {i : Interval} :
    i.isCanonical = true ↔ i.start.offset = 0 ∧ i.stop.offset = 0 := by
  unfold isCanonical chronology
  by_cases start : i.start.offset = 0 <;> by_cases stop : i.stop.offset = 0 <;>
    simp [start, stop]

theorem start_le_stop (i : Interval) : i.start.instant ≤ i.stop.instant := by
  have ordered := i.ordered
  change ¬ (_ ∨ _) at ordered
  change _ ∨ _
  omega

theorem new_start_stop (i : Interval) : new i.start i.stop = .ok i := by
  rw [new, dif_neg i.ordered]

theorem new_ok {start stop : Timestamp} {i : Interval} (made : new start stop = .ok i) :
    i.start = start ∧ i.stop = stop := by
  unfold new at made
  split at made
  · cases made
  · cases made
    exact ⟨rfl, rfl⟩

theorem parse_ok_iff {literal : String} {i : Interval} :
    parse literal = .ok i ↔
      ∃ before after, Text.splitFirst? '/' (Text.trim literal.toList) = some (before, after) ∧
        Timestamp.read? (Text.trim before) = some i.start ∧
        Timestamp.read? (Text.trim after) = some i.stop ∧ i.isCanonical = true := by
  constructor
  · intro parsed
    unfold parse at parsed
    split at parsed
    · cases parsed
    rename_i before after halves
    split at parsed
    · cases parsed
    rename_i start startRead
    split at parsed
    · cases parsed
    rename_i stop stopRead
    split at parsed
    · cases parsed
    rename_i made ordered
    split at parsed
    · rename_i canonical
      cases parsed
      obtain ⟨sameStart, sameStop⟩ := new_ok ordered
      exact ⟨before, after, halves, sameStart ▸ startRead, sameStop ▸ stopRead, canonical⟩
    · cases parsed
  · rintro ⟨before, after, halves, startRead, stopRead, canonical⟩
    simp only [parse, halves, startRead, stopRead, new_start_stop, canonical, if_true]

end SeriesCatalog.Interval
