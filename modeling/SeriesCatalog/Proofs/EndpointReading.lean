import SeriesCatalog.Proofs.EndpointGrammar
import SeriesCatalog.Proofs.LeapSeconds

/-! # Endpoints are read by their grammar

Each reader takes the text of a form off the head of a text and gives what the form denotes, if what
follows does not go on with the form. Whenever a reader succeeds, it has read such a form.
-/

namespace SeriesCatalog.Calendar

open Text

theorem trimStart_lead {before text rest : List Char} (blank : Blanks before) (nonempty : text ≠ [])
    (visible : ∀ c ∈ text, isBlank c = false) :
    trimStart (before ++ (text ++ rest)) = text ++ rest := by
  refine dropWhile_padded blank fun c first => visible c ?_
  rw [List.head?_append_of_ne_nil _ nonempty] at first
  exact List.mem_of_head? first

def Foreign (c : Char) : Prop :=
  isDigit c = false ∧ isBlank c = false ∧ c ≠ '-' ∧ c ≠ '+'

/-- Neither a digit nor a point, so that no number goes on with the character. -/
def Stops (c : Char) : Prop :=
  isDigit c = false ∧ c ≠ '.'

namespace Numeral

variable {text rest : List Char}

theorem not_mem_digits (n : Numeral) {c : Char} (foreign : Foreign c) : c ∉ n.digits := by
  intro member
  have digit := n.decimal c member
  rw [foreign.1] at digit
  cases digit

theorem visible (n : Numeral) : ∀ c ∈ n.digits, isBlank c = false :=
  fun c member => isBlank_digit (n.decimal c member)

theorem readShort?_eq (text : List Char) :
    Date.readShort? text =
      if (spanDigits (text.take 2)).1 = [] then none
      else some (digitsValue (spanDigits (text.take 2)).1,
        text.drop (spanDigits (text.take 2)).1.length) := by
  unfold Date.readShort?
  split
  · rename_i found
    rw [found, if_pos rfl]
  · rename_i digits _ nonempty found
    rw [found, if_neg fun none => nonempty none]

theorem readShort?_digits (n : Numeral) (short : n.digits.length ≤ 2)
    (stops : ∀ c ∈ rest.head?, isDigit c = false) :
    Date.readShort? (n.digits ++ rest) = some (n.value, rest) := by
  rw [readShort?_eq, spanDigits_take n.decimal short stops, if_neg n.nonempty, List.drop_left]
  rfl

theorem of_readShort? {value : Nat} (read : Date.readShort? text = some (value, rest)) :
    ∃ n : Numeral, n.digits.length ≤ 2 ∧ text = n.digits ++ rest ∧ n.value = value := by
  obtain ⟨whole, short, decimal⟩ := spanDigits_take_spec 2 text
  rw [readShort?_eq] at read
  split at read
  · cases read
  · rename_i nonempty
    cases read
    exact ⟨⟨_, nonempty, decimal⟩, short, whole, rfl⟩

end Numeral

namespace YearForm

variable {text rest : List Char}

theorem nonempty (f : YearForm) : f.text ≠ [] := by
  cases f with
  | plain numeral short => exact numeral.nonempty
  | signed negative numeral => exact List.cons_ne_nil _ _

theorem visible (f : YearForm) : ∀ c ∈ f.text, isBlank c = false := by
  cases f with
  | plain numeral short => exact numeral.visible
  | signed negative numeral =>
    refine List.forall_mem_cons.2 ⟨?_, numeral.visible⟩
    cases negative <;> rfl

theorem not_mem_text (f : YearForm) {c : Char} (foreign : Foreign c) : c ∉ f.text := by
  cases f with
  | plain numeral short => exact numeral.not_mem_digits foreign
  | signed negative numeral =>
    rw [text, List.mem_cons, not_or]
    refine ⟨?_, numeral.not_mem_digits foreign⟩
    cases negative
    · exact foreign.2.2.2
    · exact foreign.2.2.1

theorem readYear?_signed (negative : Bool) (text : List Char) :
    Date.readYear? ((if negative then '-' else '+') :: text) =
      if (spanDigits text).1 = [] then none
      else some (if negative then -(digitsValue (spanDigits text).1 : Int)
        else digitsValue (spanDigits text).1, (spanDigits text).2) := by
  cases negative
  all_goals
    simp only [Bool.false_eq_true, if_false, if_true, Date.readYear?]
    split
    · rename_i found
      rw [found, if_pos rfl]
    · rename_i digits _ nonempty found
      rw [found, if_neg fun none => nonempty none]

theorem readYear?_plain (text : List Char) (noSign : ∀ c ∈ text.head?, c ≠ '-' ∧ c ≠ '+') :
    Date.readYear? text =
      if (spanDigits (text.take 4)).1 = [] then none
      else some ((digitsValue (spanDigits (text.take 4)).1 : Int),
        text.drop (spanDigits (text.take 4)).1.length) := by
  unfold Date.readYear?
  split
  · exact absurd rfl (noSign '-' rfl).1
  · exact absurd rfl (noSign '+' rfl).2
  · split
    · rename_i found
      rw [found, if_pos rfl]
    · rename_i digits _ nonempty found
      rw [found, if_neg fun none => nonempty none]

theorem readYear?_text (f : YearForm) (stops : ∀ c ∈ rest.head?, isDigit c = false) :
    Date.readYear? (f.text ++ rest) = some (f.value, rest) := by
  cases f with
  | plain numeral short =>
    have noSign : ∀ c ∈ (numeral.digits ++ rest).head?, c ≠ '-' ∧ c ≠ '+' := by
      intro c first
      rw [List.head?_append_of_ne_nil _ numeral.nonempty] at first
      have digit := numeral.decimal c (List.mem_of_head? first)
      constructor <;> rintro rfl <;> cases digit
    rw [text, readYear?_plain _ noSign, spanDigits_take numeral.decimal short stops,
      if_neg numeral.nonempty, List.drop_left]
    rfl
  | signed negative numeral =>
    rw [text, List.cons_append, readYear?_signed, spanDigits_eq numeral.decimal stops,
      if_neg numeral.nonempty]
    rfl

theorem of_readYear? {value : Int} (read : Date.readYear? text = some (value, rest)) :
    ∃ f : YearForm, text = f.text ++ rest ∧ f.value = value := by
  by_cases sign : ∃ negative : Bool, ∃ digits, text = (if negative then '-' else '+') :: digits
  · obtain ⟨negative, digits, rfl⟩ := sign
    obtain ⟨whole, decimal, -⟩ := spanDigits_spec digits
    rw [readYear?_signed] at read
    split at read
    · cases read
    · rename_i nonempty
      cases read
      refine ⟨.signed negative ⟨_, nonempty, decimal⟩, ?_, rfl⟩
      rw [YearForm.text, List.cons_append, ← whole]
  · have noSign : ∀ c ∈ text.head?, c ≠ '-' ∧ c ≠ '+' := by
      intro c first
      obtain ⟨digits, rfl⟩ := List.head?_eq_some_iff.1 first
      exact ⟨fun same => sign ⟨true, digits, by rw [same]; rfl⟩,
        fun same => sign ⟨false, digits, by rw [same]; rfl⟩⟩
    obtain ⟨whole, short, decimal⟩ := spanDigits_take_spec 4 text
    rw [readYear?_plain text noSign] at read
    split at read
    · cases read
    · rename_i nonempty
      cases read
      exact ⟨.plain ⟨_, nonempty, decimal⟩ short, whole, rfl⟩

end YearForm

namespace DateForm

theorem dash_stops {rest : List Char} : ∀ c ∈ ('-' :: rest).head?, isDigit c = false := by
  intro c first
  cases first
  rfl

theorem read?_text (f : DateForm) : Date.read? f.text = some f.date := by
  have year (rest : List Char) :
      Date.readYear? (f.year.text ++ '-' :: rest) = some (f.year.value, '-' :: rest) :=
    f.year.readYear?_text dash_stops
  have month (rest : List Char) :
      Date.readShort? (f.month.digits ++ '-' :: rest) = some (f.month.value, '-' :: rest) :=
    f.month.readShort?_digits f.short.1 dash_stops
  have day : Date.readShort? (f.day.digits ++ []) = some (f.day.value, []) :=
    f.day.readShort?_digits f.short.2 fun c first => by cases first
  have beforeMonth (rest : List Char) :
      trimStart (f.beforeMonth ++ (f.month.digits ++ rest)) = f.month.digits ++ rest :=
    trimStart_lead f.blank.2.1 f.month.nonempty f.month.visible
  have beforeDay : trimStart (f.beforeDay ++ (f.day.digits ++ [])) = f.day.digits ++ [] :=
    trimStart_lead f.blank.2.2 f.day.nonempty f.day.visible
  rw [List.append_nil] at day beforeDay
  rw [text, Date.read?, trimStart_lead f.blank.1 f.year.nonempty f.year.visible]
  simp only [year, month, day, beforeMonth, beforeDay, oneChar?_cons, Option.bind_eq_bind,
    Option.bind_some]
  exact if_pos ⟨trivial, f.valid, f.inCalendar⟩

theorem not_mem_text (f : DateForm) {c : Char} (foreign : Foreign c) : c ∉ f.text := by
  have visible : ∀ blanks, Blanks blanks → c ∉ blanks := by
    intro blanks blank member
    have isBlank := blank c member
    rw [foreign.2.1] at isBlank
    cases isBlank
  obtain ⟨beforeYear, beforeMonth, beforeDay⟩ := f.blank
  simp only [text, List.mem_append, List.mem_cons, not_or]
  exact ⟨visible _ beforeYear, f.year.not_mem_text foreign, foreign.2.2.1, visible _ beforeMonth,
    f.month.not_mem_digits foreign, foreign.2.2.1, visible _ beforeDay,
    f.day.not_mem_digits foreign⟩

theorem of_read? {text : List Char} {d : Date} (read : Date.read? text = some d) :
    ∃ f : DateForm, f.text = text ∧ f.date = d := by
  simp only [Date.read?, Option.bind_eq_bind, Option.bind_eq_some_iff, Prod.exists] at read
  obtain ⟨year, text₁, year?, text₂, dash, month, text₃, month?, text₄, dash', day, text₅, day?,
    ended⟩ := read
  split at ended
  · rename_i complete
    obtain ⟨nothing, valid, inCalendar⟩ := complete
    cases ended
    obtain ⟨⟨beforeYear, whole, blankYear⟩, -⟩ := trimStart_spec text
    obtain ⟨⟨beforeMonth, middle, blankMonth⟩, -⟩ := trimStart_spec text₂
    obtain ⟨⟨beforeDay, last, blankDay⟩, -⟩ := trimStart_spec text₄
    obtain ⟨yearForm, yearText, rfl⟩ := YearForm.of_readYear? year?
    obtain ⟨monthForm, monthShort, monthText, rfl⟩ := Numeral.of_readShort? month?
    obtain ⟨dayForm, dayShort, dayText, rfl⟩ := Numeral.of_readShort? day?
    refine ⟨⟨beforeYear, yearForm, beforeMonth, monthForm, beforeDay, dayForm,
      ⟨blankYear, blankMonth, blankDay⟩, ⟨monthShort, dayShort⟩, valid, inCalendar⟩, ?_, rfl⟩
    rw [whole, yearText, oneChar?_spec dash, middle, monthText, oneChar?_spec dash', last, dayText,
      nothing, List.append_nil]
    rfl
  · cases ended

end DateForm

namespace Fraction

/-- Missing digits up to the ninth are zeros, and those behind it are cut off. -/
theorem fractionNanos_digits (n : Numeral) :
    Timestamp.fractionNanos n.digits = n.value * 10 ^ 9 / 10 ^ n.digits.length := by
  have pos : 0 < 10 ^ n.digits.length := Nat.pow_pos (by decide)
  by_cases short : n.digits.length ≤ 9
  · have taken : (n.digits ++ List.replicate 9 '0').take 9 =
        n.digits ++ List.replicate (9 - n.digits.length) '0' := by
      rw [List.take_append, List.take_of_length_le short, List.take_replicate]
      congr 2
      omega
    have split : 10 ^ 9 = 10 ^ (9 - n.digits.length) * 10 ^ n.digits.length := by
      rw [← Nat.pow_add, Nat.sub_add_cancel short]
    rw [Timestamp.fractionNanos, taken, digitsValue_zeros, split, ← Nat.mul_assoc,
      Nat.mul_div_cancel _ pos]
    rfl
  · have long : 9 ≤ n.digits.length := by omega
    have taken : (n.digits ++ List.replicate 9 '0').take 9 = n.digits.take 9 :=
      List.take_append_of_le_length long
    have value : n.value = digitsValue (n.digits.take 9) * 10 ^ (n.digits.length - 9) +
        digitsValue (n.digits.drop 9) := by
      rw [← List.length_drop, ← digitsValue_append, List.take_append_drop]
      rfl
    have rest : digitsValue (n.digits.drop 9) < 10 ^ (n.digits.length - 9) := by
      rw [← List.length_drop]
      exact digitsValue_lt fun c member => n.decimal c (List.mem_of_mem_drop member)
    have split : 10 ^ n.digits.length = 10 ^ (n.digits.length - 9) * 10 ^ 9 := by
      rw [← Nat.pow_add, Nat.sub_add_cancel long]
    rw [Timestamp.fractionNanos, taken, split,
      Nat.mul_div_mul_right _ _ (Nat.pow_pos (by decide)), value, Nat.add_comm,
      Nat.add_mul_div_right _ _ (Nat.pow_pos (by decide)), Nat.div_eq_of_lt rest, Nat.zero_add]

theorem readFraction?_point (text : List Char) :
    Timestamp.readFraction? ('.' :: text) =
      if (spanDigits text).1 = [] then none
      else some (Timestamp.fractionNanos (spanDigits text).1, (spanDigits text).2) := by
  rw [Timestamp.readFraction?]
  split
  · rename_i found
    rw [found, if_pos rfl]
  · rename_i digits _ nonempty found
    rw [found, if_neg fun none => nonempty none]

theorem readFraction?_missing {text : List Char} (noPoint : ∀ c ∈ text.head?, c ≠ '.') :
    Timestamp.readFraction? text = some (0, text) := by
  unfold Timestamp.readFraction?
  split
  · exact absurd rfl (noPoint '.' rfl)
  · rfl

theorem readFraction?_text (f : Fraction) {c : Char} (stops : Stops c)
    (rest : List Char) :
    Timestamp.readFraction? (f.text ++ c :: rest) = some (f.nanos, c :: rest) := by
  cases f with
  | none => exact readFraction?_missing fun d first => by cases first; exact stops.2
  | some numeral =>
    rw [text, List.cons_append, readFraction?_point, spanDigits_append numeral.decimal stops.1,
      if_neg numeral.nonempty, fractionNanos_digits]
    rfl

theorem of_readFraction? {text rest : List Char} {nanos : Nat}
    (read : Timestamp.readFraction? text = some (nanos, rest)) :
    ∃ f : Fraction, text = f.text ++ rest ∧ f.nanos = nanos := by
  by_cases point : ∃ digits, text = '.' :: digits
  · obtain ⟨digits, rfl⟩ := point
    obtain ⟨whole, decimal, -⟩ := spanDigits_spec digits
    rw [readFraction?_point] at read
    split at read
    · cases read
    · rename_i nonempty
      cases read
      refine ⟨some ⟨_, nonempty, decimal⟩, ?_, (fractionNanos_digits _).symm⟩
      rw [Fraction.text, List.cons_append, ← whole]
  · have noPoint : ∀ c ∈ text.head?, c ≠ '.' := by
      rintro c first rfl
      exact point ((List.head?_eq_some_iff.1 first))
    rw [readFraction?_missing noPoint] at read
    cases read
    exact ⟨none, rfl, rfl⟩

end Fraction

namespace TimeForm

theorem readClock?_text (f : TimeForm) {c : Char} (stops : Stops c) (rest : List Char) :
    Timestamp.readClock? (f.text ++ c :: rest) = some (f.secondOfDay, f.nanos, c :: rest) := by
  have small : f.hour < 100 ∧ f.minute < 100 ∧ f.second < 100 := by
    have inDay := f.inDay
    omega
  simp only [text, List.append_assoc, List.cons_append, Timestamp.readClock?,
    twoDigits?_fixedNumeral small.1, twoDigits?_fixedNumeral small.2.1,
    twoDigits?_fixedNumeral small.2.2, oneChar?_cons, f.fraction.readFraction?_text stops,
    Option.bind_eq_bind, Option.bind_some, if_pos f.inDay, secondOfDay, nanos]
  split
  · rename_i leap
    rw [leap]
    rfl
  · have plain : min f.second 59 = f.second := by
      have inDay := f.inDay
      omega
    rw [plain, Nat.add_zero]

theorem of_readClock? {text rest : List Char} {second nanos : Nat}
    (read : Timestamp.readClock? text = some (second, nanos, rest)) :
    ∃ f : TimeForm, text = f.text ++ rest ∧ f.secondOfDay = second ∧ f.nanos = nanos := by
  simp only [Timestamp.readClock?, Option.bind_eq_bind, Option.bind_eq_some_iff,
    Prod.exists] at read
  obtain ⟨hour, text₁, hour?, text₂, colon, minute, text₃, minute?, text₄, colon', sixtieth, text₅,
    second?, part, text₆, fraction?, ended⟩ := read
  split at ended
  · rename_i inDay
    obtain ⟨-, hourText⟩ := twoDigits?_spec hour?
    obtain ⟨-, minuteText⟩ := twoDigits?_spec minute?
    obtain ⟨-, secondText⟩ := twoDigits?_spec second?
    obtain ⟨fraction, fractionText, rfl⟩ := Fraction.of_readFraction? fraction?
    have whole : text = TimeForm.text ⟨hour, minute, sixtieth, fraction, inDay⟩ ++ text₆ := by
      rw [hourText, oneChar?_spec colon, minuteText, oneChar?_spec colon', secondText, fractionText]
      simp only [TimeForm.text, List.append_assoc, List.cons_append]
    split at ended
    · rename_i leap
      cases ended
      refine ⟨_, whole, ?_, ?_⟩
      · simp only [secondOfDay, leap]
        rfl
      · simp only [TimeForm.nanos, if_pos leap]
    · rename_i plain
      cases ended
      refine ⟨_, whole, ?_, ?_⟩
      · simp only [secondOfDay]
        omega
      · simp only [TimeForm.nanos, if_neg plain, Nat.add_zero]
  · cases ended

end TimeForm

namespace ZoneForm

theorem text_stops (z : ZoneForm) : ∃ c rest, z.text = c :: rest ∧ Stops c := by
  cases z with
  | letter small =>
    refine ⟨_, [], rfl, ?_⟩
    cases small <;> exact ⟨rfl, by decide⟩
  | shifted sign hours minutes inDay =>
    refine ⟨_, _, rfl, ?_⟩
    cases sign <;> exact ⟨rfl, by decide⟩

theorem readOffset?_sign (sign : OffsetSign) (text : List Char) :
    Timestamp.readOffset? (sign.char :: text) = (do
      let (hours, rest) ← twoDigits? text
      let rest ← oneChar? ':' rest
      let (minutes, rest) ← twoDigits? rest
      if rest = [] ∧ hours ≤ 23 ∧ minutes ≤ 59 then
        some (sign.factor * (hours * 3600 + minutes * 60 : Nat))
      else none) := by
  cases sign <;> rfl

theorem readOffset?_text (z : ZoneForm) : Timestamp.readOffset? z.text = some z.offset := by
  cases z with
  | letter small => cases small <;> rfl
  | shifted sign hours minutes inDay =>
    have small : hours < 100 ∧ minutes < 100 := by omega
    have hour := twoDigits?_fixedNumeral small.1 (':' :: fixedNumeral 2 minutes)
    have minute := twoDigits?_fixedNumeral small.2 []
    rw [List.append_nil] at minute
    rw [text, readOffset?_sign]
    simp only [hour, minute, oneChar?_cons, Option.bind_eq_bind, Option.bind_some]
    exact if_pos ⟨trivial, inDay⟩

theorem of_readOffset? {text : List Char} {offset : Int}
    (read : Timestamp.readOffset? text = some offset) :
    ∃ z : ZoneForm, z.text = text ∧ z.offset = offset := by
  by_cases signed : ∃ (sign : OffsetSign) (rest : List Char), text = sign.char :: rest
  · obtain ⟨sign, text, rfl⟩ := signed
    rw [readOffset?_sign] at read
    simp only [Option.bind_eq_bind, Option.bind_eq_some_iff, Prod.exists] at read
    obtain ⟨hours, text₁, hours?, text₂, colon, minutes, text₃, minutes?, ended⟩ := read
    split at ended
    · rename_i complete
      obtain ⟨nothing, inDay⟩ := complete
      cases ended
      refine ⟨.shifted sign hours minutes inDay, ?_, rfl⟩
      rw [(twoDigits?_spec hours?).2, oneChar?_spec colon, (twoDigits?_spec minutes?).2, nothing,
        List.append_nil]
      rfl
    · cases ended
  · unfold Timestamp.readOffset? at read
    split at read
    · cases read
      exact ⟨.letter false, rfl, rfl⟩
    · cases read
      exact ⟨.letter true, rfl, rfl⟩
    · rename_i c rest _ _
      have plus : c ≠ '+' := fun same => signed ⟨.plus, rest, by rw [same]; rfl⟩
      have hyphen : c ≠ '-' := fun same => signed ⟨.hyphen, rest, by rw [same]; rfl⟩
      have minus : c ≠ '\u2212' := fun same => signed ⟨.minus, rest, by rw [same]; rfl⟩
      simp [plus, hyphen, minus] at read
    · cases read

end ZoneForm

theorem Date.yearText_plain {year : Int} (plain : 0 ≤ year ∧ year ≤ 9999) :
    Date.yearText year = fixedNumeral 4 year.toNat := by
  rw [Date.yearText, if_pos plain]

namespace Timestamp

theorem readFullDate?_text {d : Date} (valid : d.isValid = true)
    (plain : 0 ≤ d.year ∧ d.year ≤ 9999) (rest : List Char) :
    readFullDate? (d.text ++ rest) = some (d, rest) := by
  obtain ⟨month, day⟩ := Date.isValid_bounds valid
  have year : d.year.toNat < 10000 := by omega
  have same : (d.year.toNat : Int) = d.year := Int.toNat_of_nonneg plain.1
  simp only [Date.text, Date.yearText_plain plain, List.append_assoc, List.cons_append,
    readFullDate?, fourDigits?_fixedNumeral year, twoDigits?_fixedNumeral month,
    twoDigits?_fixedNumeral day, oneChar?_cons, Option.bind_eq_bind, Option.bind_some, same,
    if_pos valid]

theorem of_readFullDate? {text rest : List Char} {d : Date}
    (read : readFullDate? text = some (d, rest)) :
    d.isValid = true ∧ (0 ≤ d.year ∧ d.year ≤ 9999) ∧ text = d.text ++ rest := by
  simp only [readFullDate?, Option.bind_eq_bind, Option.bind_eq_some_iff, Prod.exists] at read
  obtain ⟨year, text₁, year?, text₂, dash, month, text₃, month?, text₄, dash', day, text₅, day?,
    ended⟩ := read
  split at ended
  · rename_i valid
    cases ended
    obtain ⟨small, yearText⟩ := fourDigits?_spec year?
    have plain : 0 ≤ (year : Int) ∧ (year : Int) ≤ 9999 := by omega
    refine ⟨valid, plain, ?_⟩
    rw [yearText, oneChar?_spec dash, (twoDigits?_spec month?).2, oneChar?_spec dash',
      (twoDigits?_spec day?).2, Date.text, Date.yearText_plain plain]
    simp only [Int.toNat_natCast, List.append_assoc, List.cons_append]
  · cases ended

end Timestamp

namespace DateTimeForm

theorem of?_timestamp (f : DateTimeForm) :
    Instant.of? f.seconds f.time.nanos = some f.timestamp.instant := by
  rw [Instant.of?, dif_pos f.seconds_inCalendar, dif_pos f.nanos_spec]
  rfl

theorem readDateTime?_text (f : DateTimeForm) :
    Timestamp.readDateTime? f.text = some f.timestamp := by
  obtain ⟨c, rest, zone, stops⟩ := f.zone.text_stops
  have separator (rest : List Char) :
      Timestamp.readSeparator? (f.separator :: rest) = some rest := if_pos f.separates
  have offset := f.zone.readOffset?_text
  have instant := f.of?_timestamp
  rw [zone] at offset
  rw [seconds] at instant
  simp only [text, zone, Timestamp.readDateTime?, Timestamp.readFullDate?_text f.valid f.plain,
    separator, f.time.readClock?_text stops, offset, instant, Option.bind_eq_bind, Option.bind_some]
  rfl

theorem of_readDateTime? {text : List Char} {t : Timestamp}
    (read : Timestamp.readDateTime? text = some t) :
    ∃ f : DateTimeForm, f.text = text ∧ f.timestamp = t := by
  simp only [Timestamp.readDateTime?, Option.bind_eq_bind, Option.bind_eq_some_iff,
    Prod.exists] at read
  obtain ⟨date, text₁, date?, text₂, separator?, second, nanos, text₃, clock?, offset, offset?,
    instant, instant?, ended⟩ := read
  obtain ⟨valid, plain, rfl⟩ := Timestamp.of_readFullDate? date?
  obtain ⟨time, rfl, rfl, rfl⟩ := TimeForm.of_readClock? clock?
  obtain ⟨zone, rfl, rfl⟩ := ZoneForm.of_readOffset? offset?
  unfold Timestamp.readSeparator? at separator?
  split at separator?
  · rename_i separator rest
    split at separator?
    · rename_i separates
      cases separator?
      let form : DateTimeForm := ⟨date, separator, time, zone, valid, plain, separates⟩
      have same : form.timestamp.instant = instant :=
        Option.some.inj (form.of?_timestamp.symm.trans instant?)
      cases ended
      refine ⟨form, rfl, ?_⟩
      rw [← same]
      rfl
    · cases separator?
  · cases separator?

end DateTimeForm

namespace DateForm

theorem midnight?_date (f : DateForm) : Timestamp.midnight? f.date = some f.timestamp := by
  have instant : Instant.of? (f.date.dayNumber * 86400) 0 = some f.timestamp.instant :=
    (dif_pos f.timestamp.instant.inCalendar).trans (dif_pos (.inl (by decide)))
  rw [Timestamp.midnight?, instant]
  rfl

theorem readDateTime?_text (f : DateForm) : Timestamp.readDateTime? f.text = none := by
  cases read : Timestamp.readDateTime? f.text with
  | none => rfl
  | some t =>
    obtain ⟨other, same, -⟩ := DateTimeForm.of_readDateTime? read
    have colon : ':' ∈ f.text := by
      rw [← same, DateTimeForm.text, TimeForm.text]
      simp
    exact absurd colon (f.not_mem_text ⟨rfl, rfl, by decide, by decide⟩)

end DateForm

namespace Endpoint

theorem read?_text (e : Endpoint) : Timestamp.read? e.text = some e.timestamp := by
  cases e with
  | dateTime form => rw [text, Timestamp.read?, form.readDateTime?_text]; rfl
  | date form =>
    rw [text, Timestamp.read?, form.readDateTime?_text, form.read?_text]
    exact form.midnight?_date

theorem of_read? {text : List Char} {t : Timestamp} (read : Timestamp.read? text = some t) :
    ∃ e : Endpoint, e.text = text ∧ e.timestamp = t := by
  unfold Timestamp.read? at read
  split at read
  · rename_i whole
    cases read
    obtain ⟨form, same, denoted⟩ := DateTimeForm.of_readDateTime? whole
    exact ⟨.dateTime form, same, denoted⟩
  · obtain ⟨date, bare, read⟩ := Option.bind_eq_some_iff.1 read
    obtain ⟨form, same, rfl⟩ := DateForm.of_read? bare
    rw [form.midnight?_date] at read
    cases read
    exact ⟨.date form, same, rfl⟩

/-- Second 60 denotes a leap second at the end of a minute, since offsets are whole minutes. -/
theorem not_isStray (e : Endpoint) : ¬ e.timestamp.instant.IsStray := by
  rw [Instant.isStray_iff]
  cases e with
  | dateTime form =>
    have spec := form.nanos_spec
    simp only [timestamp, DateTimeForm.timestamp]
    omega
  | date form =>
    simp only [timestamp, DateForm.timestamp, Instant.atSecond]
    omega

theorem read?_eq_none_iff {text : List Char} :
    Timestamp.read? text = none ↔ ∀ e : Endpoint, e.text ≠ text := by
  rw [Option.eq_none_iff_forall_ne_some]
  constructor
  · rintro unread e rfl
    exact unread _ e.read?_text
  · intro unwritten t read
    obtain ⟨e, same, -⟩ := of_read? read
    exact unwritten e same

end Endpoint

namespace DateForm

/-- The day written in full width, with the time of its start. -/
def padded (f : DateForm) (plain : 0 ≤ f.date.year ∧ f.date.year ≤ 9999) : DateTimeForm :=
  ⟨f.date, 'T', .midnight, .letter false, f.valid, plain, .inl rfl⟩

theorem text_padded (f : DateForm) (plain : 0 ≤ f.date.year ∧ f.date.year ≤ 9999) :
    (f.padded plain).text = f.date.text ++ "T00:00:00Z".toList := by
  have clock : 'T' :: (TimeForm.midnight.text ++ (ZoneForm.letter false).text) =
      "T00:00:00Z".toList := by
    decide
  exact congrArg (f.date.text ++ ·) clock

theorem timestamp_padded (f : DateForm) (plain : 0 ≤ f.date.year ∧ f.date.year ≤ 9999) :
    (f.padded plain).timestamp = f.timestamp := by
  have seconds : (f.padded plain).seconds = f.date.dayNumber * 86400 := by
    simp [padded, TimeForm.midnight, DateTimeForm.seconds, TimeForm.secondOfDay, ZoneForm.offset]
  simp only [DateTimeForm.timestamp, timestamp, Instant.atSecond, Timestamp.mk.injEq,
    Instant.mk.injEq]
  exact ⟨⟨seconds, rfl⟩, rfl⟩

theorem read?_padded (f : DateForm) (plain : 0 ≤ f.date.year ∧ f.date.year ≤ 9999) :
    Timestamp.read? (f.date.text ++ "T00:00:00Z".toList) = some f.timestamp := by
  rw [← f.text_padded plain, ← f.timestamp_padded plain]
  exact (Endpoint.dateTime (f.padded plain)).read?_text

end DateForm

end SeriesCatalog.Calendar
