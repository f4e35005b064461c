import Mathlib.Order.Lattice
import SeriesCatalog.Proofs.Dates
import SeriesCatalog.Proofs.Interval
import SeriesCatalog.Proofs.Source

/-! # What an interval holds

An interval holds the instants from its start up to its end. One that ends where it starts holds
none; when it lies strictly within another interval the two overlap all the same, and that is the
only way to overlap without an instant in common. The interval of observed rows holds the
milliseconds from the first row to the last one, and no others.
-/

namespace SeriesCatalog

open Calendar

namespace Calendar.Instant

theorem lt_iff {a b : Instant} :
    a < b ↔ a.seconds < b.seconds ∨ (a.seconds = b.seconds ∧ a.nanos < b.nanos) :=
  Iff.rfl

theorem le_iff {a b : Instant} :
    a ≤ b ↔ a.seconds < b.seconds ∨ (a.seconds = b.seconds ∧ a.nanos ≤ b.nanos) :=
  Iff.rfl

instance : LinearOrder Instant where
  le_refl a := by
    rw [le_iff]
    omega
  le_trans a b c := by
    simp only [le_iff]
    omega
  lt_iff_le_not_ge a b := by
    simp only [le_iff, lt_iff]
    omega
  le_antisymm a b := by
    simp only [le_iff]
    intro before after
    apply eq_of_parts <;> omega
  le_total a b := by
    simp only [le_iff]
    omega
  toDecidableLE := inferInstance

/-- Some instant outside of leap seconds lies in that millisecond since the epoch. -/
def Representable (millis : Int) : Prop :=
  ∃ t : Instant, t.isLeap = false ∧ t.millis = millis

theorem isLeap_eq_false_iff {t : Instant} : t.isLeap = false ↔ t.nanos < 1000000000 := by
  simp [isLeap]

theorem ofMillis?_eq_some_iff {millis : Int} {t : Instant} :
    ofMillis? millis = some t ↔
      t.seconds = millis / 1000 ∧ t.nanos = (millis % 1000).toNat * 1000000 := by
  constructor
  · intro made
    unfold ofMillis? of? at made
    split at made
    · split at made
      · cases made
        exact ⟨rfl, rfl⟩
      · cases made
    · cases made
  · rintro ⟨seconds, nanos⟩
    have noLeap : t.nanos < 1000000000 := by omega
    rw [ofMillis?, ← seconds, ← nanos, of?, dif_pos t.inCalendar, dif_pos (.inl noLeap)]

variable {millis : Int} {t made : Instant}

theorem millis_ofMillis? (found : ofMillis? millis = some made) : made.millis = millis := by
  obtain ⟨seconds, nanos⟩ := ofMillis?_eq_some_iff.1 found
  unfold Instant.millis
  omega

theorem isLeap_ofMillis? (found : ofMillis? millis = some made) : made.isLeap = false := by
  obtain ⟨seconds, nanos⟩ := ofMillis?_eq_some_iff.1 found
  rw [isLeap_eq_false_iff]
  omega

theorem ofMillis?_le_iff (found : ofMillis? millis = some made) (noLeap : t.isLeap = false) :
    made ≤ t ↔ millis ≤ t.millis := by
  obtain ⟨seconds, nanos⟩ := ofMillis?_eq_some_iff.1 found
  rw [isLeap_eq_false_iff] at noLeap
  rw [le_iff]
  unfold Instant.millis
  omega

theorem lt_ofMillis?_iff (found : ofMillis? millis = some made) (noLeap : t.isLeap = false) :
    t < made ↔ t.millis < millis := by
  rw [← not_le, ofMillis?_le_iff found noLeap, not_le]

theorem representable_iff : Representable millis ↔ ∃ t, ofMillis? millis = some t := by
  constructor
  · rintro ⟨t, noLeap, rfl⟩
    rw [isLeap_eq_false_iff] at noLeap
    have inCalendar := t.inCalendar
    have seconds : t.millis / 1000 = t.seconds := by
      unfold Instant.millis
      omega
    refine ⟨⟨t.seconds, (t.millis % 1000).toNat * 1000000, inCalendar, by omega⟩, ?_⟩
    exact ofMillis?_eq_some_iff.2 ⟨seconds.symm, rfl⟩
  · rintro ⟨t, found⟩
    exact ⟨t, isLeap_ofMillis? found, millis_ofMillis? found⟩

theorem ofMillis?_eq_none_iff : ofMillis? millis = none ↔ ¬ Representable millis := by
  rw [representable_iff, Option.eq_none_iff_forall_ne_some, not_exists]

/-- The calendar ends long before the numbers of the store do. -/
theorem not_representable_of_lastMillis_le (late : lastMillis ≤ millis) :
    ¬ Representable millis := by
  rintro ⟨t, noLeap, rfl⟩
  have bound : lastMillis = 9223372036854775807 := rfl
  have inCalendar := t.inCalendar
  rw [isLeap_eq_false_iff] at noLeap
  unfold Instant.millis at late
  unfold lastSecond at inCalendar
  omega

end Calendar.Instant

namespace Interval

variable {a b i : Interval} {t : Instant}

def IsEmpty (i : Interval) : Prop :=
  i.start.instant = i.stop.instant

theorem contains_iff : i.contains t = true ↔ i.start.instant ≤ t ∧ t < i.stop.instant := by
  rw [contains, decide_eq_true_eq]

theorem overlaps_iff :
    a.overlaps b = true ↔
      a.start.instant < b.stop.instant ∧ b.start.instant < a.stop.instant := by
  rw [overlaps, decide_eq_true_eq]

theorem not_isEmpty_iff : ¬ i.IsEmpty ↔ i.start.instant < i.stop.instant :=
  (lt_iff_le_and_ne.trans (and_iff_right i.start_le_stop)).symm

theorem IsEmpty.not_contains (empty : i.IsEmpty) (t : Instant) : ¬ i.contains t = true := by
  intro holds
  obtain ⟨before, after⟩ := contains_iff.1 holds
  rw [← empty] at after
  exact absurd after (not_lt.2 before)

/-- An empty interval behind the start of another one and before its end. -/
structure IsPointWithin (a b : Interval) : Prop where
  empty : a.IsEmpty
  afterStart : b.start.instant < a.start.instant
  beforeStop : a.start.instant < b.stop.instant

theorem overlaps_comm (a b : Interval) : a.overlaps b = b.overlaps a := by
  rw [Bool.eq_iff_iff, overlaps_iff, overlaps_iff]
  exact and_comm

theorem overlaps_of_shared (first : a.contains t = true) (second : b.contains t = true) :
    a.overlaps b = true := by
  rw [contains_iff] at first second
  exact overlaps_iff.2 ⟨first.1.trans_lt second.2, second.1.trans_lt first.2⟩

/-- The later start is an instant of both. -/
theorem exists_shared (filled : ¬ a.IsEmpty) (filled' : ¬ b.IsEmpty) (meet : a.overlaps b = true) :
    ∃ t, a.contains t = true ∧ b.contains t = true := by
  rw [not_isEmpty_iff] at filled filled'
  obtain ⟨aStarts, bStarts⟩ := overlaps_iff.1 meet
  refine ⟨max a.start.instant b.start.instant, contains_iff.2 ?_, contains_iff.2 ?_⟩
  · exact ⟨le_max_left _ _, max_lt filled bStarts⟩
  · exact ⟨le_max_right _ _, max_lt aStarts filled'⟩

theorem overlaps_empty_iff (empty : a.IsEmpty) : a.overlaps b = true ↔ a.IsPointWithin b := by
  rw [overlaps_iff, ← empty]
  constructor
  · rintro ⟨beforeStop, afterStart⟩
    exact ⟨empty, afterStart, beforeStop⟩
  · rintro ⟨-, afterStart, beforeStop⟩
    exact ⟨beforeStop, afterStart⟩

theorem IsPointWithin.unshared (point : a.IsPointWithin b) :
    ¬ (a.overlaps b = true ↔ ∃ t, a.contains t = true ∧ b.contains t = true) := by
  intro agree
  obtain ⟨t, held, -⟩ := agree.1 ((overlaps_empty_iff point.empty).2 point)
  exact point.empty.not_contains t held

theorem shared_comm :
    (a.overlaps b = true ↔ ∃ t, a.contains t = true ∧ b.contains t = true) ↔
      (b.overlaps a = true ↔ ∃ t, b.contains t = true ∧ a.contains t = true) := by
  rw [overlaps_comm a b]
  simp only [and_comm]

/-- Overlapping is having an instant in common, but for empty intervals strictly within another. -/
theorem overlaps_iff_shared_iff (a b : Interval) :
    ((a.overlaps b = true ↔ ∃ t, a.contains t = true ∧ b.contains t = true) ↔
        ¬ a.IsPointWithin b ∧ ¬ b.IsPointWithin a) ∧
      a.overlaps b = b.overlaps a ∧
      (a.IsEmpty → (a.overlaps b = true ↔ a.IsPointWithin b)) := by
  refine ⟨⟨fun agree => ⟨fun point => point.unshared agree, fun point => ?_⟩, ?_⟩,
    overlaps_comm a b, overlaps_empty_iff⟩
  · exact point.unshared (shared_comm.1 agree)
  · rintro ⟨notWithin, notAround⟩
    refine ⟨fun meet => exists_shared (fun empty => ?_) (fun empty => ?_) meet, ?_⟩
    · exact notWithin ((overlaps_empty_iff empty).1 meet)
    · rw [overlaps_comm] at meet
      exact notAround ((overlaps_empty_iff empty).1 meet)
    · rintro ⟨t, first, second⟩
      exact overlaps_of_shared first second

def point : Interval :=
  ⟨⟨.atSecond 5 (by decide), 0⟩, ⟨.atSecond 5 (by decide), 0⟩, by decide⟩

def nineSeconds : Interval :=
  ⟨⟨.atSecond 1 (by decide), 0⟩, ⟨.atSecond 10 (by decide), 0⟩, by decide⟩

theorem point_within_nineSeconds :
    point.IsEmpty ∧ (point.overlaps nineSeconds = true ↔ point.IsPointWithin nineSeconds) ∧
      point.IsPointWithin nineSeconds := by
  have empty : point.IsEmpty := rfl
  have agree := (overlaps_iff_shared_iff point nineSeconds).2.2 empty
  exact ⟨empty, agree, agree.1 (by decide)⟩

theorem point_overlaps_nothing_shared :
    point.overlaps nineSeconds = true ∧ nineSeconds.overlaps point = true ∧
      ¬ ∃ t, point.contains t = true ∧ nineSeconds.contains t = true := by
  refine ⟨by decide, by decide, ?_⟩
  rintro ⟨t, held, -⟩
  have empty : point.IsEmpty := rfl
  exact empty.not_contains t held

section Made

variable {start stop : Int}

theorem ofMillis_of_representable (first : Instant.Representable start)
    (last : Instant.Representable stop) :
    (stop < start ∧ ∃ begin finish, ofMillis start stop = .error (.endBeforeStart begin finish)) ∨
      (start ≤ stop ∧ ∃ i, ofMillis start stop = .ok i) := by
  obtain ⟨first, firstFound⟩ := Instant.representable_iff.1 first
  obtain ⟨last, lastFound⟩ := Instant.representable_iff.1 last
  have order := Instant.lt_ofMillis?_iff firstFound (Instant.isLeap_ofMillis? lastFound)
  rw [Instant.millis_ofMillis? lastFound] at order
  simp only [ofMillis, firstFound, lastFound, new]
  split
  · rename_i reversed
    exact .inl ⟨order.1 reversed, _, _, rfl⟩
  · rename_i ordered
    exact .inr ⟨not_lt.1 fun reversed => ordered (order.2 reversed), _, rfl⟩

theorem ofMillis_of_not_representable
    (outside : ¬ (Instant.Representable start ∧ Instant.Representable stop)) :
    ∃ literal millis, ofMillis start stop = .error (.malformed literal (.outOfRange millis)) ∧
      ¬ Instant.Representable millis := by
  by_cases first : Instant.Representable start
  · have last : ¬ Instant.Representable stop := fun last => outside ⟨first, last⟩
    obtain ⟨begin, found⟩ := Instant.representable_iff.1 first
    refine ⟨toString start ++ "/" ++ toString stop, stop, ?_, last⟩
    simp only [ofMillis, found, Instant.ofMillis?_eq_none_iff.2 last]
  · refine ⟨toString start ++ "/" ++ toString stop, start, ?_, first⟩
    simp only [ofMillis, Instant.ofMillis?_eq_none_iff.2 first]

theorem ofMillis_ok {i : Interval} (made : ofMillis start stop = .ok i) :
    Instant.ofMillis? start = some i.start.instant ∧
      Instant.ofMillis? stop = some i.stop.instant := by
  unfold ofMillis at made
  dsimp only at made
  split at made
  · cases made
  · rename_i first firstFound
    split at made
    · cases made
    · rename_i last lastFound
      obtain ⟨sameStart, sameStop⟩ := new_ok made
      rw [sameStart, sameStop]
      exact ⟨firstFound, lastFound⟩

end Made

/-- The interval holds whole milliseconds, from the first to the last. -/
structure HoldsMillis (i : Interval) (first last : Int) : Prop where
  canonical : i.isCanonical = true
  start : i.start.instant.millis = first
  stop : i.stop.instant.millis = last + 1
  contains_iff : ∀ t : Instant, t.isLeap = false →
    (i.contains t = true ↔ first ≤ t.millis ∧ t.millis ≤ last)
  filled : first ≤ last → ¬ i.IsEmpty

theorem holdsMillis_ofMillis {first last : Int} (made : ofMillis first (last + 1) = .ok i) :
    i.HoldsMillis first last := by
  obtain ⟨startFound, stopFound⟩ := ofMillis_ok made
  refine ⟨ofMillis_canonical made, Instant.millis_ofMillis? startFound,
    Instant.millis_ofMillis? stopFound, fun t noLeap => ?_, fun ordered => ?_⟩
  · rw [contains_iff, Instant.ofMillis?_le_iff startFound noLeap,
      Instant.lt_ofMillis?_iff stopFound noLeap, Int.lt_add_one_iff]
  · rw [not_isEmpty_iff, Instant.lt_ofMillis?_iff stopFound (Instant.isLeap_ofMillis? startFound),
      Instant.millis_ofMillis? startFound]
    exact Int.lt_add_one_iff.2 ordered

end Interval

section Observed

variable {rows : Nat} {min max : Int}

theorem observedInterval_inside (filled : rows ≠ 0) (last : Instant.Representable (max + 1)) :
    observedInterval rows min max = (Interval.ofMillis min (max + 1)).map some := by
  have early : max < lastMillis := by
    have inside : ¬ lastMillis ≤ max + 1 :=
      fun late => Instant.not_representable_of_lastMillis_le late last
    omega
  rw [observedInterval, if_neg filled, if_pos early]

/-- Where the end is not carried further, it lies outside of the calendar anyway. -/
theorem observedInterval_outside (filled : rows ≠ 0)
    (outside : ¬ (Instant.Representable min ∧ Instant.Representable (max + 1))) :
    ∃ literal millis, observedInterval rows min max =
        .error (.malformed literal (.outOfRange millis)) ∧ ¬ Instant.Representable millis := by
  have outside' : ¬ (Instant.Representable min ∧
      Instant.Representable (if max < lastMillis then max + 1 else lastMillis)) := by
    split
    · exact outside
    · rintro ⟨-, last⟩
      exact Instant.not_representable_of_lastMillis_le le_rfl last
  obtain ⟨literal, millis, made, absent⟩ := Interval.ofMillis_of_not_representable outside'
  refine ⟨literal, millis, ?_, absent⟩
  rw [observedInterval, if_neg filled, made]
  rfl

theorem observedInterval_error (filled : rows ≠ 0) (first : Instant.Representable min)
    (last : Instant.Representable (max + 1)) (reversed : max + 1 < min) :
    ∃ start stop, observedInterval rows min max = .error (.endBeforeStart start stop) := by
  rcases Interval.ofMillis_of_representable first last with ⟨-, start, stop, made⟩ | ⟨ordered, -⟩
  · refine ⟨start, stop, ?_⟩
    rw [observedInterval_inside filled last, made]
    rfl
  · omega

theorem observedInterval_some_iff (filled : rows ≠ 0) :
    (∃ i, observedInterval rows min max = .ok (some i)) ↔
      Instant.Representable min ∧ Instant.Representable (max + 1) ∧ min ≤ max + 1 := by
  constructor
  · rintro ⟨i, observed⟩
    by_cases inside : Instant.Representable min ∧ Instant.Representable (max + 1)
    · refine ⟨inside.1, inside.2, not_lt.1 fun reversed => ?_⟩
      obtain ⟨start, stop, failed⟩ := observedInterval_error filled inside.1 inside.2 reversed
      rw [failed] at observed
      cases observed
    · obtain ⟨literal, millis, failed, -⟩ := observedInterval_outside filled inside
      rw [failed] at observed
      cases observed
  · rintro ⟨first, last, ordered⟩
    rw [observedInterval_inside filled last]
    rcases Interval.ofMillis_of_representable first last with ⟨reversed, -⟩ | ⟨-, i, made⟩
    · omega
    · exact ⟨i, by rw [made]; rfl⟩

theorem observedInterval_holds {i : Interval}
    (observed : observedInterval rows min max = .ok (some i)) : i.HoldsMillis min max := by
  have filled : rows ≠ 0 := by
    intro empty
    rw [observedInterval_none_iff.2 empty] at observed
    cases observed
  obtain ⟨-, last, -⟩ := (observedInterval_some_iff filled).1 ⟨i, observed⟩
  rw [observedInterval_inside filled last] at observed
  obtain ⟨found, made, same⟩ := Outcome.map_eq_ok observed
  cases same
  exact Interval.holdsMillis_ofMillis made

end Observed

/-- The interval of observed rows holds their milliseconds and no others. There is one exactly if
the first millisecond and the one behind the last are in the calendar and in order. -/
theorem observedInterval_exact (rows : Nat) (min max : Int) :
    (observedInterval rows min max = .ok none ↔ rows = 0) ∧
      (rows ≠ 0 →
        ((∃ i, observedInterval rows min max = .ok (some i)) ↔
          Instant.Representable min ∧ Instant.Representable (max + 1) ∧ min ≤ max + 1) ∧
        (∀ i, observedInterval rows min max = .ok (some i) → i.HoldsMillis min max) ∧
        (¬ (Instant.Representable min ∧ Instant.Representable (max + 1)) →
          ∃ literal millis, observedInterval rows min max =
              .error (.malformed literal (.outOfRange millis)) ∧
            ¬ Instant.Representable millis) ∧
        (Instant.Representable min → Instant.Representable (max + 1) → max + 1 < min →
          ∃ start stop, observedInterval rows min max = .error (.endBeforeStart start stop))) := by
  refine ⟨observedInterval_none_iff, fun filled => ⟨observedInterval_some_iff filled, ?_, ?_, ?_⟩⟩
  · intro i observed
    exact observedInterval_holds observed
  · exact observedInterval_outside filled
  · exact observedInterval_error filled

/-- Both rows lie in the last millisecond before the epoch. -/
theorem rows_before_epoch :
    (2 : Nat) ≠ 0 ∧
      ∃ i, observedInterval 2 (-1) (-1) = .ok (some i) ∧ i.HoldsMillis (-1) (-1) := by
  have filled : (2 : Nat) ≠ 0 := by decide
  obtain ⟨some_iff, holds, -⟩ := (observedInterval_exact 2 (-1) (-1)).2 filled
  have first : Instant.Representable (-1) :=
    ⟨⟨-1, 999000000, by decide, by decide⟩, by decide, by decide⟩
  have last : Instant.Representable (-1 + 1) := ⟨⟨0, 0, by decide, by decide⟩, by decide, by decide⟩
  obtain ⟨i, observed⟩ := some_iff.2 ⟨first, last, by decide⟩
  exact ⟨filled, i, observed, holds i observed⟩

end SeriesCatalog
