import Mathlib.Data.List.Basic
import Mathlib.Data.List.TakeWhile
import SeriesCatalog.Text.Blank

/-! # Laws of trimming and splitting

A trimmed text is what is left of a text between blanks at both ends. A text splits at the first
occurrence of a character exactly if the character does not stand in the part before it.
-/

namespace SeriesCatalog.Text

def Blanks (text : List Char) : Prop :=
  ∀ c ∈ text, isBlank c = true

instance (text : List Char) : Decidable (Blanks text) :=
  List.decidableBAll (fun c => isBlank c = true) text

theorem Blanks.nil : Blanks [] := by
  simp [Blanks]

theorem Blanks.space : Blanks [' '] := by
  simp [Blanks, isBlank]

/-- Neither the first nor the last character is blank. -/
def IsTrimmed (text : List Char) : Prop :=
  (∀ c ∈ text.head?, isBlank c = false) ∧ ∀ c ∈ text.getLast?, isBlank c = false

-- By name, since instance search may prefer to go through all characters there are.
instance (text : List Char) : Decidable (IsTrimmed text) :=
  @instDecidableAnd _ _ (Option.decidableForallMem text.head?)
    (Option.decidableForallMem text.getLast?)

/-- The text is `inner` between blanks, with none of them at the ends of `inner`. -/
def Trims (text inner : List Char) : Prop :=
  ∃ before after, text = before ++ inner ++ after ∧ Blanks before ∧ Blanks after ∧ IsTrimmed inner

section Padded

variable {α : Type} {p : α → Bool} {before text after : List α}

theorem dropWhile_padded (passed : ∀ c ∈ before, p c = true)
    (stops : ∀ c ∈ text.head?, p c = false) : (before ++ text).dropWhile p = text := by
  rw [List.dropWhile_append_of_pos passed]
  cases text with
  | nil => rfl
  | cons c rest =>
    have stop : p c = false := stops c rfl
    exact List.dropWhile_cons_of_neg (by simp [stop])

theorem dropWhile_padded_end (passed : ∀ c ∈ after, p c = true)
    (stops : ∀ c ∈ text.getLast?, p c = false) :
    ((text ++ after).reverse.dropWhile p).reverse = text := by
  have backwards : ∀ c ∈ after.reverse, p c = true := by
    intro c member
    exact passed c (List.mem_reverse.1 member)
  have last : ∀ c ∈ text.reverse.head?, p c = false := by
    rw [List.head?_reverse]
    exact stops
  rw [List.reverse_append, dropWhile_padded backwards last, List.reverse_reverse]

theorem dropWhile_padded_ends (passedBefore : ∀ c ∈ before, p c = true)
    (passedAfter : ∀ c ∈ after, p c = true) (first : ∀ c ∈ text.head?, p c = false)
    (last : ∀ c ∈ text.getLast?, p c = false) :
    (((before ++ text ++ after).dropWhile p).reverse.dropWhile p).reverse = text := by
  cases text with
  | nil =>
    have all : ∀ c ∈ before ++ after, p c = true :=
      List.forall_mem_append.2 ⟨passedBefore, passedAfter⟩
    have nothing : (before ++ after ++ []).dropWhile p = [] := dropWhile_padded all (by simp)
    rw [List.append_nil] at nothing ⊢
    rw [nothing]
    rfl
  | cons c rest =>
    rw [List.append_assoc, dropWhile_padded passedBefore (by simpa using first),
      dropWhile_padded_end passedAfter last]

theorem dropWhile_spec (p : α → Bool) (text : List α) :
    (∃ before, text = before ++ text.dropWhile p ∧ ∀ c ∈ before, p c = true) ∧
      ∀ c ∈ (text.dropWhile p).head?, p c = false := by
  constructor
  · refine ⟨text.takeWhile p, List.takeWhile_append_dropWhile.symm, ?_⟩
    intro c member
    exact List.mem_takeWhile_imp member
  · intro c first
    have stops := List.head?_dropWhile_not p text
    rw [first] at stops
    simpa using stops

/-- What holds of the start of the reversed text holds of the end of the text. -/
theorem dropWhile_end_spec (p : α → Bool) (text : List α) :
    (∃ after, text = (text.reverse.dropWhile p).reverse ++ after ∧ ∀ c ∈ after, p c = true) ∧
      ∀ c ∈ (text.reverse.dropWhile p).reverse.getLast?, p c = false := by
  obtain ⟨⟨before, whole, passed⟩, first⟩ := dropWhile_spec p text.reverse
  constructor
  · refine ⟨before.reverse, ?_, fun c member => passed c (List.mem_reverse.1 member)⟩
    rw [← List.reverse_append, ← whole, List.reverse_reverse]
  · rw [List.getLast?_reverse]
    exact first

theorem dropWhile_ends_spec (p : α → Bool) (text : List α) :
    ∃ before after, text = before ++ ((text.dropWhile p).reverse.dropWhile p).reverse ++ after ∧
      (∀ c ∈ before, p c = true) ∧ (∀ c ∈ after, p c = true) ∧
      (∀ c ∈ ((text.dropWhile p).reverse.dropWhile p).reverse.head?, p c = false) ∧
      ∀ c ∈ ((text.dropWhile p).reverse.dropWhile p).reverse.getLast?, p c = false := by
  obtain ⟨⟨before, front, passedBefore⟩, first⟩ := dropWhile_spec p text
  obtain ⟨⟨after, back, passedAfter⟩, last⟩ := dropWhile_end_spec p (text.dropWhile p)
  refine ⟨before, after, ?_, passedBefore, passedAfter, ?_, last⟩
  · rw [List.append_assoc, ← back, ← front]
  · -- The first character that is left after the end is dropped was first before.
    intro c member
    apply first
    rw [back, List.head?_append, member]
    rfl

theorem dropWhile_ends_sublist (p : α → Bool) (text : List α) :
    (((text.dropWhile p).reverse.dropWhile p).reverse).Sublist text := by
  obtain ⟨before, after, whole, -⟩ := dropWhile_ends_spec p text
  conv_rhs => rw [whole]
  exact (List.sublist_append_right before _).trans (List.sublist_append_left _ after)

end Padded

theorem trimStart_spec (text : List Char) :
    (∃ before, text = before ++ trimStart text ∧ Blanks before) ∧
      ∀ c ∈ (trimStart text).head?, isBlank c = false :=
  dropWhile_spec isBlank text

theorem trimEnd_spec (text : List Char) :
    (∃ after, text = trimEnd text ++ after ∧ Blanks after) ∧
      ∀ c ∈ (trimEnd text).getLast?, isBlank c = false :=
  dropWhile_end_spec isBlank text

theorem trims_trim (text : List Char) : Trims text (trim text) := by
  obtain ⟨before, after, whole, blankBefore, blankAfter, trimmed⟩ :=
    dropWhile_ends_spec isBlank text
  exact ⟨before, after, whole, blankBefore, blankAfter, trimmed⟩

/-- Trimming finds the one text that stands between the blanks. -/
theorem trim_eq_iff {text inner : List Char} : trim text = inner ↔ Trims text inner := by
  constructor
  · rintro rfl
    exact trims_trim text
  · rintro ⟨before, after, rfl, blankBefore, blankAfter, first, last⟩
    exact dropWhile_padded_ends blankBefore blankAfter first last

theorem trim_padded {before text after : List Char} (blankBefore : Blanks before)
    (trimmed : IsTrimmed text) (blankAfter : Blanks after) :
    trim (before ++ text ++ after) = text :=
  trim_eq_iff.2 ⟨before, after, rfl, blankBefore, blankAfter, trimmed⟩

theorem trim_of_isTrimmed {text : List Char} (trimmed : IsTrimmed text) : trim text = text :=
  trim_eq_iff.2 ⟨[], [], by simp, Blanks.nil, Blanks.nil, trimmed⟩

theorem trim_append_blanks {text after : List Char} (blank : Blanks after) :
    trim (text ++ after) = trim text := by
  obtain ⟨first, last, whole, blankFirst, blankLast, trimmed⟩ := trims_trim text
  refine trim_eq_iff.2 ⟨first, last ++ after, ?_, blankFirst, ?_, trimmed⟩
  · rw [← List.append_assoc, ← whole]
  · exact List.forall_mem_append.2 ⟨blankLast, blank⟩

theorem trim_blanks_append {before text : List Char} (blank : Blanks before) :
    trim (before ++ text) = trim text := by
  obtain ⟨first, last, whole, blankFirst, blankLast, trimmed⟩ := trims_trim text
  refine trim_eq_iff.2 ⟨before ++ first, last, ?_, ?_, blankLast, trimmed⟩
  · rw [List.append_assoc, List.append_assoc, ← List.append_assoc first, ← whole]
  · exact List.forall_mem_append.2 ⟨blank, blankFirst⟩

/-- The blanks at the end of a text are those of its last part, if there is more before it. -/
theorem trim_append {lead rest : List Char} (opens : lead ≠ []) (trimmed : IsTrimmed lead) :
    trim (lead ++ rest) = lead ++ trimEnd rest := by
  obtain ⟨⟨after, back, blank⟩, last⟩ := trimEnd_spec rest
  refine trim_eq_iff.2 ⟨[], after, ?_, Blanks.nil, blank, ?_, ?_⟩
  · rw [List.nil_append, List.append_assoc, ← back]
  · rw [List.head?_append_of_ne_nil _ opens]
    exact trimmed.1
  · intro c member
    rw [List.getLast?_append] at member
    cases found : (trimEnd rest).getLast? with
    | none =>
      rw [found] at member
      exact trimmed.2 c member
    | some d =>
      rw [found] at member
      cases member
      exact last c found

theorem isTrimmed_of_visible {text : List Char} (visible : ∀ c ∈ text, isBlank c = false) :
    IsTrimmed text :=
  ⟨fun c first => visible c (List.mem_of_head? first),
    fun c last => visible c (List.mem_of_getLast? last)⟩

theorem dropLead?_eq_some_iff {lead text rest : List Char} :
    dropLead? lead text = some rest ↔ text = lead ++ rest := by
  induction lead generalizing text with
  | nil => simp [dropLead?, eq_comm]
  | cons l lead ih =>
    cases text with
    | nil => simp [dropLead?]
    | cons c text =>
      rw [dropLead?]
      split
      · rename_i same
        rw [ih, same, List.cons_append, List.cons.injEq]
        simp
      · rename_i different
        simp [Ne.symm different]

theorem dropLead?_isSome_iff {lead text : List Char} :
    (dropLead? lead text).isSome = true ↔ lead <+: text := by
  rw [Option.isSome_iff_exists]
  constructor
  · rintro ⟨rest, found⟩
    exact ⟨rest, (dropLead?_eq_some_iff.1 found).symm⟩
  · rintro ⟨rest, same⟩
    exact ⟨rest, dropLead?_eq_some_iff.2 same.symm⟩

@[simp] theorem dropLead?_append (lead rest : List Char) :
    dropLead? lead (lead ++ rest) = some rest :=
  dropLead?_eq_some_iff.2 rfl

/-- The text splits at the one place that has no separator before it. -/
theorem splitFirst?_eq_some_iff {sep : Char} {text before after : List Char} :
    splitFirst? sep text = some (before, after) ↔ text = before ++ sep :: after ∧ sep ∉ before := by
  induction text generalizing before with
  | nil => simp [splitFirst?]
  | cons c text ih =>
    rw [splitFirst?]
    split
    · rename_i same
      subst same
      cases before with
      | nil => simp [eq_comm]
      | cons d before => simp +contextual [eq_comm]
    · rename_i different
      rw [Option.map_eq_some_iff]
      cases before with
      | nil => simp [different]
      | cons d before =>
        simp only [Prod.exists, Prod.mk.injEq, List.cons.injEq, List.cons_append, List.mem_cons,
          not_or]
        constructor
        · rintro ⟨first, second, found, ⟨rfl, rfl⟩, rfl⟩
          obtain ⟨rfl, absent⟩ := ih.1 found
          exact ⟨⟨rfl, rfl⟩, Ne.symm different, absent⟩
        · rintro ⟨⟨rfl, rfl⟩, -, absent⟩
          exact ⟨before, after, ih.2 ⟨rfl, absent⟩, ⟨rfl, rfl⟩, rfl⟩

theorem splitFirst?_eq_none_iff {sep : Char} {text : List Char} :
    splitFirst? sep text = none ↔ sep ∉ text := by
  rw [Option.eq_none_iff_forall_ne_some]
  constructor
  · intro none member
    obtain ⟨before, after, same, absent⟩ := List.eq_append_cons_of_mem member
    exact none (before, after) (splitFirst?_eq_some_iff.2 ⟨same, absent⟩)
  · rintro absent ⟨before, after⟩ found
    obtain ⟨rfl, -⟩ := splitFirst?_eq_some_iff.1 found
    simp at absent

theorem splitAll_of_not_mem {sep : Char} {text : List Char} (absent : sep ∉ text) :
    splitAll sep text = [text] := by
  induction text with
  | nil => rfl
  | cons c text ih =>
    rw [List.mem_cons, not_or] at absent
    rw [splitAll, if_neg (Ne.symm absent.1), ih absent.2]

theorem splitAll_ne_nil (sep : Char) (text : List Char) : splitAll sep text ≠ [] := by
  cases text with
  | nil => simp [splitAll]
  | cons c text =>
    rw [splitAll]
    split
    · exact List.cons_ne_nil _ _
    · split <;> exact List.cons_ne_nil _ _

theorem not_mem_of_mem_splitAll {sep : Char} {text : List Char} :
    ∀ part ∈ splitAll sep text, sep ∉ part := by
  induction text with
  | nil => simp [splitAll]
  | cons c text ih =>
    rw [splitAll]
    split
    · exact List.forall_mem_cons.2 ⟨List.not_mem_nil, ih⟩
    · rename_i different
      split
      · rename_i first others found
        rw [found, List.forall_mem_cons] at ih
        refine List.forall_mem_cons.2 ⟨?_, ih.2⟩
        rw [List.mem_cons, not_or]
        exact ⟨Ne.symm different, ih.1⟩
      · rename_i none
        exact absurd none (splitAll_ne_nil sep text)

theorem flatten_splitAll (sep : Char) (text : List Char) :
    (splitAll sep text).flatten = text.filter (· ≠ sep) := by
  induction text with
  | nil => rfl
  | cons c text ih =>
    rw [splitAll]
    split
    · rename_i same
      simp [same, ih]
    · rename_i different
      rw [List.filter_cons_of_pos (by simpa using different), ← ih]
      split
      · rename_i first others found
        rw [found]
        rfl
      · rename_i none
        exact absurd none (splitAll_ne_nil sep text)

theorem splitAll_append_cons (sep : Char) (text rest : List Char) :
    splitAll sep (text ++ sep :: rest) = splitAll sep text ++ splitAll sep rest := by
  induction text with
  | nil =>
    rw [List.nil_append]
    exact if_pos rfl
  | cons c text ih =>
    rw [List.cons_append, splitAll, splitAll, ih]
    split
    · rfl
    · cases found : splitAll sep text with
      | nil => exact absurd found (splitAll_ne_nil sep text)
      | cons part parts => rfl

theorem splitAll_append {sep : Char} {part : List Char} (absent : sep ∉ part) (rest : List Char) :
    splitAll sep (part ++ sep :: rest) = part :: splitAll sep rest := by
  rw [splitAll_append_cons, splitAll_of_not_mem absent, List.singleton_append]

section Blank

variable {sep : Char} (visible : isBlank sep = false)

include visible

theorem Blanks.not_mem {text : List Char} (blank : Blanks text) : sep ∉ text := by
  intro member
  rw [blank sep member] at visible
  cases visible

theorem map_trim_splitAll_append {text after : List Char} (blank : Blanks after) :
    (splitAll sep (text ++ after)).map trim = (splitAll sep text).map trim := by
  by_cases member : sep ∈ text.reverse
  · obtain ⟨last, first, whole, absent⟩ := List.eq_append_cons_of_mem member
    have whole' : text = first.reverse ++ sep :: last.reverse := by
      rw [← List.reverse_reverse text, whole]
      simp
    have noSep : sep ∉ last.reverse := fun member => absent (List.mem_reverse.1 member)
    have noSepAfter : sep ∉ last.reverse ++ after := by
      rw [List.mem_append, not_or]
      exact ⟨noSep, blank.not_mem visible⟩
    rw [whole', List.append_assoc, List.cons_append, splitAll_append_cons, splitAll_append_cons,
      splitAll_of_not_mem noSep, splitAll_of_not_mem noSepAfter, List.map_append, List.map_append,
      List.map_singleton, List.map_singleton, trim_append_blanks blank]
  · have noSep : sep ∉ text := fun member' => member (List.mem_reverse.2 member')
    have noSepAfter : sep ∉ text ++ after := by
      rw [List.mem_append, not_or]
      exact ⟨noSep, blank.not_mem visible⟩
    rw [splitAll_of_not_mem noSep, splitAll_of_not_mem noSepAfter, List.map_singleton,
      List.map_singleton, trim_append_blanks blank]

theorem map_trim_splitAll_blanks {before text : List Char} (blank : Blanks before) :
    (splitAll sep (before ++ text)).map trim = (splitAll sep text).map trim := by
  by_cases member : sep ∈ text
  · obtain ⟨first, last, rfl, absent⟩ := List.eq_append_cons_of_mem member
    have noSep : sep ∉ before ++ first := by
      rw [List.mem_append, not_or]
      exact ⟨blank.not_mem visible, absent⟩
    rw [← List.append_assoc, splitAll_append noSep, splitAll_append absent, List.map_cons,
      List.map_cons, trim_blanks_append blank]
  · have noSep : sep ∉ before ++ text := by
      rw [List.mem_append, not_or]
      exact ⟨blank.not_mem visible, member⟩
    rw [splitAll_of_not_mem member, splitAll_of_not_mem noSep, List.map_singleton,
      List.map_singleton, trim_blanks_append blank]

theorem map_trim_splitAll_trim (text : List Char) :
    (splitAll sep (trim text)).map trim = (splitAll sep text).map trim := by
  obtain ⟨before, after, whole, blankBefore, blankAfter, -⟩ := trims_trim text
  conv_rhs => rw [whole, map_trim_splitAll_append visible blankAfter,
    map_trim_splitAll_blanks visible blankBefore]

end Blank
end SeriesCatalog.Text
