import Mathlib.Algebra.Group.Nat.Defs
import Mathlib.Data.List.Induction
import SeriesCatalog.Proofs.Trimming
import SeriesCatalog.Text.Digits

/-! # Numerals and texts read back

A numeral of a fixed width is read back as its number, whatever follows it. Digits are no blanks,
so that trimming leaves a text of them as it is.
-/

namespace SeriesCatalog.Text

theorem digit_table : ∀ d < 10, isDigit (Char.ofNat (48 + d)) = true ∧
    digitValue (Char.ofNat (48 + d)) = d := by
  decide

@[simp] theorem isDigit_digit (n : Nat) : isDigit (digit n) = true :=
  (digit_table (n % 10) (Nat.mod_lt n (by decide))).1

@[simp] theorem digitValue_digit (n : Nat) : digitValue (digit n) = n % 10 :=
  (digit_table (n % 10) (Nat.mod_lt n (by decide))).2

theorem isDigit_iff {c : Char} : isDigit c = true ↔ 48 ≤ c.toNat ∧ c.toNat ≤ 57 := by
  simp only [isDigit, Bool.and_eq_true, decide_eq_true_eq, Char.le_def, UInt32.le_iff_toNat_le]
  exact Iff.rfl

theorem isBlank_digit {c : Char} (digit : isDigit c = true) : isBlank c = false := by
  have bounds := isDigit_iff.1 digit
  simp only [isBlank, Bool.or_eq_false_iff, Bool.and_eq_false_iff, decide_eq_false_iff_not,
    beq_eq_false_iff_ne]
  omega

theorem digitValue_lt {c : Char} (isDigit : isDigit c = true) : digitValue c < 10 := by
  have bounds := isDigit_iff.1 isDigit
  unfold digitValue
  omega

theorem digit_digitValue {c : Char} (isDigit : isDigit c = true) : digit (digitValue c) = c := by
  have bounds := isDigit_iff.1 isDigit
  have code : 48 + digitValue c = c.toNat := Nat.add_sub_cancel' bounds.1
  rw [digit, Nat.mod_eq_of_lt (digitValue_lt isDigit), code, Char.ofNat_toNat]

theorem digitsValue_concat (digits : List Char) (c : Char) :
    digitsValue (digits ++ [c]) = 10 * digitsValue digits + digitValue c := by
  simp only [digitsValue, List.foldl_append, List.foldl_cons, List.foldl_nil]

theorem digitsValue_zeros (digits : List Char) (count : Nat) :
    digitsValue (digits ++ List.replicate count '0') = digitsValue digits * 10 ^ count := by
  induction count with
  | zero => simp
  | succ count ih =>
    have zero : digitValue '0' = 0 := rfl
    rw [List.replicate_succ', ← List.append_assoc, digitsValue_concat, ih, zero, Nat.add_zero,
      Nat.pow_succ, Nat.mul_comm 10, Nat.mul_assoc]

@[simp] theorem length_fixedNumeral (width n : Nat) : (fixedNumeral width n).length = width := by
  induction width generalizing n with
  | zero => rfl
  | succ width ih => simp [fixedNumeral, ih]

theorem isDigit_fixedNumeral (width n : Nat) : ∀ c ∈ fixedNumeral width n, isDigit c = true := by
  induction width generalizing n with
  | zero => simp [fixedNumeral]
  | succ width ih =>
    intro c member
    rcases List.mem_append.1 member with early | last
    · exact ih _ c early
    · rw [List.mem_singleton.1 last]
      exact isDigit_digit n

theorem digitsValue_fixedNumeral (width n : Nat) :
    digitsValue (fixedNumeral width n) = n % 10 ^ width := by
  induction width generalizing n with
  | zero =>
    rw [Nat.pow_zero, Nat.mod_one]
    rfl
  | succ width ih =>
    rw [fixedNumeral, digitsValue_concat, ih, digitValue_digit, Nat.pow_succ, Nat.mul_comm _ 10,
      Nat.mod_mul]
    omega

theorem digitsValue_lt {digits : List Char} (all : ∀ c ∈ digits, isDigit c = true) :
    digitsValue digits < 10 ^ digits.length := by
  induction digits using List.reverseRecOn with
  | nil => decide
  | append_singleton digits c ih =>
    rw [List.forall_mem_append, List.forall_mem_singleton] at all
    have bound := ih all.1
    have last := digitValue_lt all.2
    rw [digitsValue_concat, List.length_append, List.length_singleton, Nat.pow_succ]
    omega

theorem fixedNumeral_digitsValue {digits : List Char} (all : ∀ c ∈ digits, isDigit c = true) :
    fixedNumeral digits.length (digitsValue digits) = digits := by
  induction digits using List.reverseRecOn with
  | nil => rfl
  | append_singleton digits c ih =>
    rw [List.forall_mem_append, List.forall_mem_singleton] at all
    have last := digitValue_lt all.2
    have leading : (10 * digitsValue digits + digitValue c) / 10 = digitsValue digits := by omega
    have digitOf : digit (10 * digitsValue digits + digitValue c) = digit (digitValue c) := by
      unfold digit
      congr 2
      omega
    rw [digitsValue_concat, List.length_append, List.length_singleton, fixedNumeral, leading,
      ih all.1, digitOf, digit_digitValue all.2]

theorem digitsValue_append (digits more : List Char) :
    digitsValue (digits ++ more) = digitsValue digits * 10 ^ more.length + digitsValue more := by
  induction more using List.reverseRecOn with
  | nil => simp [digitsValue]
  | append_singleton more c ih =>
    rw [← List.append_assoc, digitsValue_concat, digitsValue_concat, ih, List.length_append,
      List.length_singleton, Nat.pow_succ, Nat.mul_add, Nat.add_assoc, Nat.mul_left_comm,
      Nat.mul_comm 10 (10 ^ more.length)]

theorem isDigit_numeral {n : Nat} : ∀ c ∈ numeral n, isDigit c = true := by
  fun_induction numeral n with
  | case1 n small =>
    intro c member
    rw [List.mem_singleton.1 member]
    exact isDigit_digit n
  | case2 n large ih =>
    intro c member
    rcases List.mem_append.1 member with early | last
    · exact ih c early
    · rw [List.mem_singleton.1 last]
      exact isDigit_digit n

theorem isDigit_paddedNumeral {width n : Nat} :
    ∀ c ∈ paddedNumeral width n, isDigit c = true := by
  intro c member
  rcases List.mem_append.1 member with padding | digits
  · rw [List.eq_of_mem_replicate padding]
    rfl
  · exact isDigit_numeral c digits

theorem digitsValue_numeral (n : Nat) : digitsValue (numeral n) = n := by
  fun_induction numeral n with
  | case1 n small =>
    have single : digitsValue [digit n] = 10 * 0 + digitValue (digit n) := rfl
    rw [single, digitValue_digit]
    omega
  | case2 n large ih =>
    rw [digitsValue_concat, ih, digitValue_digit]
    omega

theorem numeral_ne_nil (n : Nat) : numeral n ≠ [] := by
  fun_induction numeral n with
  | case1 | case2 => simp

theorem digitsValue_paddedNumeral (width n : Nat) : digitsValue (paddedNumeral width n) = n := by
  have zeros := digitsValue_zeros [] (width - (numeral n).length)
  rw [List.nil_append] at zeros
  simp only [paddedNumeral, digitsValue_append, zeros, digitsValue_numeral]
  simp [digitsValue]

theorem paddedNumeral_ne_nil (width n : Nat) : paddedNumeral width n ≠ [] := by
  simp [paddedNumeral, numeral_ne_nil]

theorem twoDigits?_fixedNumeral {n : Nat} (small : n < 100) (rest : List Char) :
    twoDigits? (fixedNumeral 2 n ++ rest) = some (n, rest) := by
  have bound : n < 10 ^ 2 := small
  have value := digitsValue_fixedNumeral 2 n
  rw [Nat.mod_eq_of_lt bound] at value
  simp only [fixedNumeral, List.nil_append, List.cons_append] at value ⊢
  simp only [twoDigits?, isDigit_digit, Bool.and_self, if_true, value]

theorem fourDigits?_fixedNumeral {n : Nat} (small : n < 10000) (rest : List Char) :
    fourDigits? (fixedNumeral 4 n ++ rest) = some (n, rest) := by
  have bound : n < 10 ^ 4 := small
  have value := digitsValue_fixedNumeral 4 n
  rw [Nat.mod_eq_of_lt bound] at value
  simp only [fixedNumeral, List.nil_append, List.cons_append] at value ⊢
  simp only [fourDigits?, List.all_cons, List.all_nil, isDigit_digit, Bool.and_self, if_true, value]

theorem twoDigits?_spec {n : Nat} {text rest : List Char}
    (read : twoDigits? text = some (n, rest)) :
    n < 100 ∧ text = fixedNumeral 2 n ++ rest := by
  unfold twoDigits? at read
  split at read
  · rename_i a b _
    split at read
    · rename_i digits
      cases read
      have all : ∀ c ∈ [a, b], isDigit c = true := by simpa using digits
      have same : fixedNumeral 2 (digitsValue [a, b]) = [a, b] := fixedNumeral_digitsValue all
      exact ⟨digitsValue_lt all, by rw [same]; rfl⟩
    · cases read
  · cases read

theorem fourDigits?_spec {n : Nat} {text rest : List Char}
    (read : fourDigits? text = some (n, rest)) :
    n < 10000 ∧ text = fixedNumeral 4 n ++ rest := by
  unfold fourDigits? at read
  split at read
  · rename_i a b c d _
    split at read
    · rename_i digits
      cases read
      have all : ∀ e ∈ [a, b, c, d], isDigit e = true := List.all_eq_true.1 digits
      have same : fixedNumeral 4 (digitsValue [a, b, c, d]) = [a, b, c, d] :=
        fixedNumeral_digitsValue all
      exact ⟨by simpa using digitsValue_lt all, by rw [same]; rfl⟩
    · cases read
  · cases read

theorem oneChar?_spec {c : Char} {text rest : List Char} (read : oneChar? c text = some rest) :
    text = c :: rest := by
  unfold oneChar? at read
  split at read
  · split at read
    · rename_i same
      cases read
      rw [same]
    · cases read
  · cases read

@[simp] theorem oneChar?_cons (c : Char) (rest : List Char) :
    oneChar? c (c :: rest) = some rest := by
  rw [oneChar?, if_pos rfl]

theorem spanDigits_spec (text : List Char) :
    text = (spanDigits text).1 ++ (spanDigits text).2 ∧
      (∀ c ∈ (spanDigits text).1, isDigit c = true) ∧
      ∀ c ∈ (spanDigits text).2.head?, isDigit c = false := by
  refine ⟨List.takeWhile_append_dropWhile.symm, fun c => List.mem_takeWhile_imp, ?_⟩
  intro c first
  have stops := List.head?_dropWhile_not isDigit text
  rw [spanDigits] at first
  rw [first] at stops
  simpa using stops

/-- The digits at the head of a text end before the first other character. -/
theorem spanDigits_eq {digits rest : List Char} (all : ∀ d ∈ digits, isDigit d = true)
    (stops : ∀ c ∈ rest.head?, isDigit c = false) :
    spanDigits (digits ++ rest) = (digits, rest) := by
  rw [spanDigits, List.takeWhile_append_of_pos all, List.dropWhile_append_of_pos all]
  cases rest with
  | nil => simp
  | cons c rest =>
    have stop : isDigit c = false := stops c rfl
    simp [stop]

theorem spanDigits_take {digits rest : List Char} {width : Nat}
    (all : ∀ d ∈ digits, isDigit d = true) (short : digits.length ≤ width)
    (stops : ∀ c ∈ rest.head?, isDigit c = false) :
    (spanDigits ((digits ++ rest).take width)).1 = digits := by
  have stopsTaken : ∀ c ∈ (rest.take (width - digits.length)).head?, isDigit c = false := by
    intro c first
    rw [List.head?_take] at first
    split at first
    · cases first
    · exact stops c first
  rw [List.take_append, List.take_of_length_le short, spanDigits_eq all stopsTaken]

theorem spanDigits_take_spec (width : Nat) (text : List Char) :
    text = (spanDigits (text.take width)).1 ++ text.drop (spanDigits (text.take width)).1.length ∧
      (spanDigits (text.take width)).1.length ≤ width ∧
      ∀ c ∈ (spanDigits (text.take width)).1, isDigit c = true := by
  have leading : (spanDigits (text.take width)).1 <+: text.take width :=
    List.takeWhile_prefix isDigit
  refine ⟨?_, leading.length_le.trans (List.length_take_le _ _), (spanDigits_spec _).2.1⟩
  exact (List.prefix_iff_eq_append.1 (leading.trans (List.take_prefix width text))).symm

theorem spanDigits_append {digits : List Char} {c : Char} (all : ∀ d ∈ digits, isDigit d = true)
    (stop : isDigit c = false) (rest : List Char) :
    spanDigits (digits ++ c :: rest) = (digits, c :: rest) :=
  spanDigits_eq all fun d first => by cases first; exact stop

theorem trim_eq_self {text : List Char} (solid : ∀ c ∈ text, isBlank c = false) :
    trim text = text :=
  trim_of_isTrimmed (isTrimmed_of_visible solid)

theorem splitFirst?_append {sep : Char} {before after : List Char} (absent : sep ∉ before) :
    splitFirst? sep (before ++ sep :: after) = some (before, after) :=
  splitFirst?_eq_some_iff.2 ⟨rfl, absent⟩

end SeriesCatalog.Text
