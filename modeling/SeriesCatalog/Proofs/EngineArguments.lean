import SeriesCatalog.ClickHouse.Engine
import SeriesCatalog.Proofs.Trimming
import SeriesCatalog.Text.Digits

/-! # The arguments of an engine

The scanner is at a place: inside so many parentheses, and in a literal or not. A text carries it
from one place to another when all commas in it are nested or quoted. Texts that carry the scanner
back to where it started are the arguments that it finds.
-/

namespace SeriesCatalog.ClickHouse.TableEngine

open Text

/-- The number of open parentheses, and whether a literal is open. -/
structure Place where
  depth : Nat
  quoted : Bool

def Place.outside : Place := ⟨0, false⟩

def extend (text : List Char) (parts : List (List Char)) : List (List Char) :=
  text.foldr extendFirst parts

/-- The scanner gets from one place to the other without ending a part. -/
def Carries (p q : Place) (text : List Char) : Prop :=
  ∀ rest, splitParts p.depth p.quoted (text ++ rest) =
    (splitParts q.depth q.quoted rest).map (extend text)

@[simp] theorem extend_cons (text part : List Char) (parts : List (List Char)) :
    extend text (part :: parts) = (text ++ part) :: parts := by
  induction text with
  | nil => rfl
  | cons c text ih =>
    change extendFirst c (extend text (part :: parts)) = _
    rw [ih]
    rfl

theorem extend_append (first second : List Char) (parts : List (List Char)) :
    extend (first ++ second) parts = extend first (extend second parts) :=
  List.foldr_append

section Steps

variable {c : Char} {depth : Nat}

theorem splitParts_quote (depth : Nat) (quoted : Bool) (rest : List Char) :
    splitParts depth quoted ('\'' :: rest) =
      (splitParts depth (!quoted) rest).map (extendFirst '\'') := by
  cases depth <;> simp [splitParts]

theorem splitParts_quoted (noQuote : c ≠ '\'') (noEscape : c ≠ '\\') (rest : List Char) :
    splitParts depth true (c :: rest) = (splitParts depth true rest).map (extendFirst c) := by
  cases depth <;> simp [splitParts, noQuote]

theorem splitParts_opening (depth : Nat) (rest : List Char) :
    splitParts depth false ('(' :: rest) =
      (splitParts (depth + 1) false rest).map (extendFirst '(') := by
  cases depth <;> simp [splitParts]

/-- The character has no meaning outside literals. -/
def Plain (c : Char) : Prop :=
  c ∉ ['\'', '(', ')', ',']

theorem splitParts_plain (plain : Plain c) (rest : List Char) :
    splitParts depth false (c :: rest) = (splitParts depth false rest).map (extendFirst c) := by
  simp only [Plain, List.mem_cons, List.not_mem_nil, not_or, or_false] at plain
  by_cases escape : c = '\\'
  · subst escape
    cases rest <;> simp [splitParts]
  · cases depth <;> simp [splitParts, plain]

end Steps

namespace Carries

variable {p q r : Place} {c : Char}

theorem nil : Carries p p [] := by
  intro rest
  exact Option.map_id'.symm

theorem append {first second : List Char} (one : Carries p q first) (two : Carries q r second) :
    Carries p r (first ++ second) := by
  intro rest
  rw [List.append_assoc, one, two, Option.map_map]
  congr 1
  funext parts
  exact (extend_append first second parts).symm

theorem cons {text : List Char} (one : Carries p q [c]) (two : Carries q r text) :
    Carries p r (c :: text) :=
  one.append two

theorem quote (depth : Nat) (quoted : Bool) : Carries ⟨depth, quoted⟩ ⟨depth, !quoted⟩ ['\''] :=
  splitParts_quote depth quoted

theorem escape (depth : Nat) (c : Char) : Carries ⟨depth, true⟩ ⟨depth, true⟩ ['\\', c] := by
  intro rest
  exact splitParts.eq_3 depth true c rest

theorem quotedChar (depth : Nat) (noQuote : c ≠ '\'') (noEscape : c ≠ '\\') :
    Carries ⟨depth, true⟩ ⟨depth, true⟩ [c] :=
  splitParts_quoted noQuote noEscape

theorem opening (depth : Nat) : Carries ⟨depth, false⟩ ⟨depth + 1, false⟩ ['('] :=
  splitParts_opening depth

theorem closing (depth : Nat) : Carries ⟨depth + 1, false⟩ ⟨depth, false⟩ [')'] := by
  intro rest
  simp [splitParts]
  rfl

theorem nestedComma (depth : Nat) : Carries ⟨depth + 1, false⟩ ⟨depth + 1, false⟩ [','] := by
  intro rest
  simp [splitParts]
  rfl

theorem plainText (depth : Nat) {text : List Char} (plain : ∀ c ∈ text, Plain c) :
    Carries ⟨depth, false⟩ ⟨depth, false⟩ text := by
  induction text with
  | nil => exact nil
  | cons c text ih =>
    obtain ⟨first, others⟩ := List.forall_mem_cons.1 plain
    exact cons (splitParts_plain first) (ih others)

theorem blanks (depth : Nat) {text : List Char} (blank : Blanks text) :
    Carries ⟨depth, false⟩ ⟨depth, false⟩ text := by
  apply plainText
  intro c member special
  have isBlank := blank c member
  simp only [List.mem_cons, List.not_mem_nil, or_false] at special
  rcases special with rfl | rfl | rfl | rfl <;> cases isBlank

end Carries

theorem splitParts_joined {parts : List (List Char)} (nonempty : parts ≠ [])
    (each : ∀ part ∈ parts, Carries .outside .outside part) (suffix : List Char) :
    splitParts 0 false ([','].intercalate parts ++ ')' :: suffix) = some parts := by
  induction parts with
  | nil => exact absurd rfl nonempty
  | cons part others ih =>
    obtain ⟨first, later⟩ := List.forall_mem_cons.1 each
    have carried : ∀ rest, splitParts 0 false (part ++ rest) =
        (splitParts 0 false rest).map (extend part) := first
    cases others with
    | nil =>
      have closed : splitParts 0 false (')' :: suffix) = some [[]] := by simp [splitParts]
      rw [List.intercalate_singleton, carried, closed, Option.map_some, extend_cons,
        List.append_nil]
    | cons next more =>
      have rest := ih (List.cons_ne_nil next more) later
      have comma : ∀ text, splitParts 0 false (',' :: text) =
          (splitParts 0 false text).map ([] :: ·) := by
        intro text
        simp [splitParts]
      rw [List.intercalate_cons_cons, List.append_assoc, List.append_assoc, List.singleton_append,
        carried, comma, rest, Option.map_some, Option.map_some, extend_cons, List.append_nil]

/-- The text stands between two separating commas, up to the blanks around it. -/
structure IsArgument (text : List Char) : Prop where
  carries : Carries .outside .outside text
  trimmed : IsTrimmed text
  nonempty : text ≠ []

/-- An argument with the blanks that stand before and after it. -/
structure Spaced where
  before : List Char
  argument : List Char
  after : List Char
  blankBefore : Blanks before
  blankAfter : Blanks after

namespace Spaced

def text (s : Spaced) : List Char :=
  s.before ++ s.argument ++ s.after

theorem carries_text {s : Spaced} (isArgument : IsArgument s.argument) :
    Carries .outside .outside s.text :=
  ((Carries.blanks 0 s.blankBefore).append isArgument.carries).append
    (Carries.blanks 0 s.blankAfter)

theorem trim_text {s : Spaced} (isArgument : IsArgument s.argument) : trim s.text = s.argument :=
  trim_padded s.blankBefore isArgument.trimmed s.blankAfter

end Spaced

/-- Arguments that are joined by commas are found again, whatever blanks stand around them. -/
theorem splitArguments_spaced {spaced : List Spaced}
    (each : ∀ s ∈ spaced, IsArgument s.argument) (suffix : List Char) :
    splitArguments ([','].intercalate (spaced.map Spaced.text) ++ ')' :: suffix) =
      some (spaced.map Spaced.argument) := by
  by_cases none : spaced = []
  · subst none
    have closed : splitParts 0 false (')' :: suffix) = some [[]] := by simp [splitParts]
    rw [List.map_nil, List.intercalate_nil, List.nil_append, splitArguments, closed]
    rfl
  · have carried : ∀ part ∈ spaced.map Spaced.text, Carries .outside .outside part := by
      intro part member
      obtain ⟨s, isSpaced, rfl⟩ := List.mem_map.1 member
      exact Spaced.carries_text (each s isSpaced)
    have trims : (spaced.map Spaced.text).map trim = spaced.map Spaced.argument := by
      rw [List.map_map]
      apply List.map_congr_left
      intro s isSpaced
      exact Spaced.trim_text (each s isSpaced)
    have kept : (spaced.map Spaced.argument).filter (!·.isEmpty) = spaced.map Spaced.argument := by
      rw [List.filter_eq_self]
      intro argument member
      obtain ⟨s, isSpaced, rfl⟩ := List.mem_map.1 member
      simpa using (each s isSpaced).nonempty
    rw [splitArguments, splitParts_joined (by simpa using none) carried]
    simp only [Option.map_some, trims, kept]

theorem intercalate_blank (argument : List Char) (others : List (List Char)) :
    [',', ' '].intercalate (argument :: others) =
      [','].intercalate (argument :: others.map (' ' :: ·)) := by
  induction others generalizing argument with
  | nil => rfl
  | cons next more ih =>
    rw [List.intercalate_cons_cons, ih, List.map_cons, List.intercalate_cons_cons]
    cases more with
    | nil => simp
    | cons later rest => simp [List.intercalate_cons_cons]

/-- Arguments that are joined by commas and blanks are found again. -/
theorem splitArguments_joined {arguments : List (List Char)} (nonempty : arguments ≠ [])
    (each : ∀ argument ∈ arguments, IsArgument argument) (suffix : List Char) :
    splitArguments ([',', ' '].intercalate arguments ++ ')' :: suffix) = some arguments := by
  cases arguments with
  | nil => exact absurd rfl nonempty
  | cons argument others =>
    let spaced : List Spaced := ⟨[], argument, [], Blanks.nil, Blanks.nil⟩ ::
      others.map fun other => ⟨[' '], other, [], Blanks.space, Blanks.nil⟩
    have texts : spaced.map Spaced.text = argument :: others.map (' ' :: ·) := by
      simp [spaced, Spaced.text, Function.comp_def]
    have found : spaced.map Spaced.argument = argument :: others := by
      simp [spaced, Function.comp_def]
    have isArgument : ∀ s ∈ spaced, IsArgument s.argument := by
      simpa [spaced] using each
    rw [intercalate_blank, ← texts, splitArguments_spaced isArgument, found]

/-- What a literal is made of; a quote and a backslash stand only behind a backslash. -/
inductive LiteralUnit where
  | plain (c : Char) (noQuote : c ≠ '\'') (noEscape : c ≠ '\\')
  | escaped (c : Char)

def LiteralUnit.text : LiteralUnit → List Char
  | plain c _ _ => [c]
  | escaped c => ['\\', c]

/-- A string literal, by what stands between its quotes. -/
abbrev Literal := List LiteralUnit

def Literal.text (l : Literal) : List Char :=
  ['\''] ++ l.flatMap LiteralUnit.text ++ ['\'']

theorem LiteralUnit.carries (depth : Nat) (u : LiteralUnit) :
    Carries ⟨depth, true⟩ ⟨depth, true⟩ u.text := by
  cases u with
  | plain c noQuote noEscape => exact Carries.quotedChar depth noQuote noEscape
  | escaped c => exact Carries.escape depth c

theorem Literal.carries (depth : Nat) (l : Literal) :
    Carries ⟨depth, false⟩ ⟨depth, false⟩ l.text := by
  have inner : Carries ⟨depth, true⟩ ⟨depth, true⟩ (l.flatMap LiteralUnit.text) := by
    induction l with
    | nil => exact Carries.nil
    | cons u units ih =>
      rw [List.flatMap_cons]
      exact (u.carries depth).append ih
  exact ((Carries.quote depth false).append inner).append (Carries.quote depth true)

theorem Literal.isArgument (l : Literal) : IsArgument l.text := by
  refine ⟨l.carries 0, ⟨?_, ?_⟩, by simp [Literal.text]⟩
  · intro c first
    cases first
    rfl
  · intro c last
    rw [Literal.text, List.getLast?_concat] at last
    cases last
    rfl

theorem Literal.isLiteral (l : Literal) : isLiteral l.text = true :=
  rfl

/-- Blanks before a framed name and the frame itself do not belong to the name. -/
theorem unframe_framed {blanks before name after : List Char} (blank : Blanks blanks)
    (frameBefore : ∀ c ∈ before, isFrame c = true) (frameAfter : ∀ c ∈ after, isFrame c = true)
    (trimmed : IsTrimmed (before ++ name ++ after)) (first : ∀ c ∈ name.head?, isFrame c = false)
    (last : ∀ c ∈ name.getLast?, isFrame c = false) :
    unframe (trim (blanks ++ before ++ name ++ after)) = name := by
  have trims : trim (blanks ++ before ++ name ++ after) = before ++ name ++ after :=
    trim_eq_iff.2 ⟨blanks, [], by simp, blank, Blanks.nil, trimmed⟩
  rw [trims]
  exact dropWhile_padded_ends frameBefore frameAfter first last

theorem isBlank_frame {c : Char} (frame : isFrame c = true) : isBlank c = false := by
  simp only [isFrame, Bool.or_eq_true, beq_iff_eq] at frame
  rcases frame with (rfl | rfl) | rfl <;> rfl

theorem not_mem_lead {blanks before : List Char} (blank : Blanks blanks)
    (frame : ∀ c ∈ before, isFrame c = true) : ',' ∉ blanks ++ before := by
  rw [List.mem_append, not_or]
  refine ⟨fun member => ?_, fun member => ?_⟩
  · cases blank ',' member
  · cases frame ',' member

/-- The text stands for the name wherever it is listed. -/
structure StandsFor (shown name : List Char) : Prop where
  noComma : ',' ∉ shown
  unframed : ∀ {blanks before after : List Char}, Blanks blanks →
    (∀ c ∈ before, isFrame c = true) → (∀ c ∈ after, isFrame c = true) →
    unframe (trim (blanks ++ before ++ shown ++ after)) = name

/-- The names between the commas of a list are found, whatever frames the whole list. -/
theorem splitAll_listed {α : Type} {shown name : α → List Char} (item : α) (others : List α)
    (each : ∀ x ∈ item :: others, StandsFor (shown x) (name x)) {blanks before after : List Char}
    (blank : Blanks blanks) (frame : ∀ c ∈ before, isFrame c = true)
    (frameAfter : ∀ c ∈ after, isFrame c = true) :
    (splitAll ',' (blanks ++ before ++
        [',', ' '].intercalate (shown item :: others.map shown) ++ after)).map
        (fun part => unframe (trim part)) =
      name item :: others.map name := by
  -- What stands before a name changes from the parenthesis to the blank behind a comma.
  induction others generalizing item blanks before with
  | nil =>
    have alone := each item List.mem_cons_self
    have noComma : ',' ∉ blanks ++ before ++ shown item ++ after := by
      rw [List.mem_append, List.mem_append, not_or, not_or]
      refine ⟨⟨not_mem_lead blank frame, alone.noComma⟩, fun member => ?_⟩
      cases frameAfter ',' member
    rw [List.map_nil, List.intercalate_singleton, splitAll_of_not_mem noComma, List.map_singleton,
      alone.unframed blank frame frameAfter]
    rfl
  | cons next more ih =>
    obtain ⟨first, later⟩ := List.forall_mem_cons.1 each
    have noComma : ',' ∉ blanks ++ before ++ shown item := by
      rw [List.mem_append, not_or]
      exact ⟨not_mem_lead blank frame, first.noComma⟩
    have parts : blanks ++ before ++
        [',', ' '].intercalate (shown item :: shown next :: more.map shown) ++ after =
        blanks ++ before ++ shown item ++ ',' :: ([' '] ++ [] ++
          [',', ' '].intercalate (shown next :: more.map shown) ++ after) := by
      rw [List.intercalate_cons_cons]
      simp
    have unframed : ∀ c ∈ ([] : List Char), isFrame c = true := by simp
    have found := first.unframed blank frame unframed
    rw [List.append_nil] at found
    rw [List.map_cons, parts, splitAll_append noComma, List.map_cons, found,
      ih next later Blanks.space unframed, List.map_cons]

def isNameStart (c : Char) : Bool :=
  ('A' ≤ c && c ≤ 'Z') || ('a' ≤ c && c ≤ 'z') || c == '_'

def isNameChar (c : Char) : Bool :=
  isNameStart c || isDigit c

structure Identifier where
  first : Char
  rest : List Char
  starts : isNameStart first = true
  continues : ∀ c ∈ rest, isNameChar c = true

/-- A character of a name means nothing to the scanner and does not frame a name. -/
theorem isNameChar_ordinary {c : Char} (name : isNameChar c = true) :
    Plain c ∧ isBlank c = false ∧ isFrame c = false := by
  have codes : (65 ≤ c.toNat ∧ c.toNat ≤ 90) ∨ (97 ≤ c.toNat ∧ c.toNat ≤ 122) ∨ c.toNat = 95 ∨
      (48 ≤ c.toNat ∧ c.toNat ≤ 57) := by
    simp only [isNameChar, isNameStart, isDigit, Bool.or_eq_true, Bool.and_eq_true,
      decide_eq_true_eq, beq_iff_eq, Char.le_def, UInt32.le_iff_toNat_le] at name
    rcases name with ((upper | lower) | rfl) | digit
    · exact .inl upper
    · exact .inr (.inl lower)
    · exact .inr (.inr (.inl rfl))
    · exact .inr (.inr (.inr digit))
  refine ⟨?_, ?_, ?_⟩
  · intro special
    simp only [List.mem_cons, List.not_mem_nil, or_false] at special
    rcases special with rfl | rfl | rfl | rfl <;> revert codes <;> decide
  · simp only [isBlank, Bool.or_eq_false_iff, Bool.and_eq_false_iff, decide_eq_false_iff_not,
      beq_eq_false_iff_ne]
    omega
  · cases frame : isFrame c with
    | false => rfl
    | true =>
      simp only [isFrame, Bool.or_eq_true, beq_iff_eq] at frame
      rcases frame with (rfl | rfl) | rfl <;> revert codes <;> decide

namespace Identifier

def text (i : Identifier) : List Char :=
  i.first :: i.rest

theorem nameChars (i : Identifier) : ∀ c ∈ i.text, isNameChar c = true := by
  intro c member
  rcases List.mem_cons.1 member with rfl | later
  · rw [isNameChar, i.starts, Bool.true_or]
  · exact i.continues c later

theorem plain (i : Identifier) : ∀ c ∈ i.text, Plain c :=
  fun c member => (isNameChar_ordinary (i.nameChars c member)).1

theorem visible (i : Identifier) : ∀ c ∈ i.text, isBlank c = false :=
  fun c member => (isNameChar_ordinary (i.nameChars c member)).2.1

theorem isArgument (i : Identifier) : IsArgument i.text :=
  ⟨Carries.plainText 0 i.plain, isTrimmed_of_visible i.visible, by simp [text]⟩

theorem isLiteral_text (i : Identifier) : isLiteral i.text = false := by
  have plain := i.plain i.first List.mem_cons_self
  simp only [Plain, List.mem_cons, not_or] at plain
  simpa [isLiteral, text] using plain.1

theorem standsFor (i : Identifier) : StandsFor i.text i.text := by
  refine ⟨fun member => absurd (i.plain ',' member) (by simp [Plain]), ?_⟩
  intro blanks before after blank frameBefore frameAfter
  have trimmed : IsTrimmed (before ++ i.text ++ after) := by
    apply isTrimmed_of_visible
    intro c member
    simp only [List.mem_append] at member
    rcases member with (frame | name) | frame
    · exact isBlank_frame (frameBefore c frame)
    · exact i.visible c name
    · exact isBlank_frame (frameAfter c frame)
  have ordinary : ∀ c ∈ i.text, isFrame c = false :=
    fun c member => (isNameChar_ordinary (i.nameChars c member)).2.2
  exact unframe_framed blank frameBefore frameAfter trimmed
    (fun c first => ordinary c (List.mem_of_head? first))
    (fun c last => ordinary c (List.mem_of_getLast? last))

end Identifier

/-- What a summing engine is told to sum. -/
inductive SumArgument where
  | none
  | single (name : Identifier)
  | listed (names : List Identifier)

namespace SumArgument

def names : SumArgument → List Identifier
  | none => []
  | single name => [name]
  | listed names => names

def texts : SumArgument → List (List Char)
  | none => []
  | single name => [name.text]
  | listed names => ['(' :: [',', ' '].intercalate (names.map Identifier.text) ++ [')']]

theorem isArgument_listed (names : List Identifier) :
    IsArgument ('(' :: [',', ' '].intercalate (names.map Identifier.text) ++ [')']) := by
  have inner : Carries ⟨1, false⟩ ⟨1, false⟩
      ([',', ' '].intercalate (names.map Identifier.text)) := by
    induction names with
    | nil => exact Carries.nil
    | cons name others ih =>
      have first : Carries ⟨1, false⟩ ⟨1, false⟩ name.text := Carries.plainText 1 name.plain
      cases others with
      | nil => rwa [List.map_singleton, List.intercalate_singleton]
      | cons next more =>
        have separator : Carries ⟨1, false⟩ ⟨1, false⟩ [',', ' '] :=
          (Carries.nestedComma 0).cons (Carries.blanks 1 Blanks.space)
        rw [List.map_cons, List.map_cons, List.intercalate_cons_cons]
        exact (first.append separator).append ih
  refine ⟨?_, ⟨?_, ?_⟩, by simp⟩
  · exact ((Carries.opening 0).append inner).append (Carries.closing 0)
  · intro c first
    cases first
    rfl
  · intro c last
    rw [List.getLast?_concat] at last
    cases last
    rfl

theorem isArgument_texts (a : SumArgument) : ∀ argument ∈ a.texts, IsArgument argument := by
  cases a with
  | none => simp [texts]
  | single name => simpa [texts] using name.isArgument
  | listed names => simpa [texts] using isArgument_listed names

theorem isLiteral_texts (a : SumArgument) : ∀ argument ∈ a.texts, isLiteral argument = false := by
  cases a with
  | none => simp [texts]
  | single name => simpa [texts] using name.isLiteral_text
  | listed names => simp [texts, isLiteral]

theorem filter_names (names : List Identifier) :
    (names.map Identifier.text).filter (fun part => !part.isEmpty && !isLiteral part) =
      names.map Identifier.text := by
  rw [List.filter_eq_self]
  intro part member
  obtain ⟨name, -, rfl⟩ := List.mem_map.1 member
  rw [name.isLiteral_text]
  rfl

/-- The commas of a list and its parentheses leave nothing but the names. -/
theorem parts_texts (a : SumArgument) :
    ((a.texts.flatMap (splitAll ',')).map fun part => unframe (trim part)).filter
        (fun part => !part.isEmpty && !isLiteral part) = a.names.map Identifier.text := by
  cases a with
  | none => rfl
  | single name =>
    have unframed : ∀ c ∈ ([] : List Char), isFrame c = true := by simp
    have alone := name.standsFor.unframed Blanks.nil unframed unframed
    simp only [List.nil_append, List.append_nil] at alone
    rw [texts, List.flatMap_singleton, splitAll_of_not_mem name.standsFor.noComma,
      List.map_singleton, alone]
    exact filter_names [name]
  | listed names =>
    rw [texts, List.flatMap_singleton]
    cases names with
    | nil => rfl
    | cons name others =>
      have opening : ∀ c ∈ ['('], isFrame c = true := by simp [isFrame]
      have closing : ∀ c ∈ [')'], isFrame c = true := by simp [isFrame]
      have found := splitAll_listed name others (fun x _ => x.standsFor) Blanks.nil opening closing
      rw [List.nil_append, List.singleton_append, List.cons_append] at found
      rw [List.map_cons, List.cons_append, found]
      exact filter_names (name :: others)

end SumArgument

/-- A summing engine; a replicated one may tell its path and its replica. -/
inductive SummingEngine where
  | plain
  | replicated (paths : Option (Literal × Literal))

namespace SummingEngine

def name : SummingEngine → String
  | plain => "SummingMergeTree"
  | replicated _ => "ReplicatedSummingMergeTree"

def literals : SummingEngine → List Literal
  | plain | replicated none => []
  | replicated (some (path, replica)) => [path, replica]

/-- The arguments in the order in which the engine takes them. -/
def arguments (e : SummingEngine) (a : SumArgument) : List (List Char) :=
  e.literals.map Literal.text ++ a.texts

/-- Without arguments there are no parentheses either. -/
def argumentText (e : SummingEngine) (a : SumArgument) : List Char :=
  if e.arguments a = [] then []
  else '(' :: [',', ' '].intercalate (e.arguments a) ++ [')']

theorem isArgument_arguments (e : SummingEngine) (a : SumArgument) :
    ∀ argument ∈ e.arguments a, IsArgument argument := by
  intro argument member
  rcases List.mem_append.1 member with literal | column
  · obtain ⟨l, -, rfl⟩ := List.mem_map.1 literal
    exact l.isArgument
  · exact a.isArgument_texts argument column

/-- The literals of a replicated engine are left out, and a plain engine has none. -/
theorem columnsOf_arguments (e : SummingEngine) (a : SumArgument) :
    columnsOf (dropLead? "Replicated".toList e.name.toList).isSome (e.arguments a) =
      a.names.map fun name => String.ofList name.text := by
  have columns : (e.arguments a).dropWhile (fun argument =>
      (dropLead? "Replicated".toList e.name.toList).isSome && isLiteral argument) = a.texts := by
    have kept : a.texts.dropWhile isLiteral = a.texts := by
      refine List.dropWhile_eq_self_iff.2 fun nonempty => ?_
      simp [a.isLiteral_texts _ (List.getElem_mem nonempty)]
    cases e with
    | plain => simp [name, arguments, literals, dropLead?]
    | replicated paths =>
      have literal : ∀ argument ∈ (replicated paths).literals.map Literal.text,
          isLiteral argument = true := by
        intro argument member
        obtain ⟨l, -, rfl⟩ := List.mem_map.1 member
        exact l.isLiteral
      have lead : (dropLead? "Replicated".toList (replicated paths).name.toList).isSome = true := by
        simp [name, dropLead?]
      simp only [lead, Bool.true_and]
      rw [arguments, List.dropWhile_append_of_pos literal, kept]
  rw [columnsOf]
  simp only [columns]
  rw [a.parts_texts, List.map_map]
  rfl

theorem isTrimmed_name (e : SummingEngine) : IsTrimmed e.name.toList := by
  cases e <;> exact ⟨by simp [name, isBlank], by simp [name, isBlank]⟩

theorem name_ne_nil (e : SummingEngine) : e.name.toList ≠ [] := by
  cases e <;> simp [name]

theorem arguments_text (e : SummingEngine) (a : SumArgument) {suffix : List Char}
    (closed : e.arguments a = [] → suffix.head? ≠ some '(') :
    ((dropLead? e.name.toList (trim (e.name.toList ++ e.argumentText a ++ suffix))).bind
      fun rest => (dropLead? ['('] rest).bind splitArguments).getD [] = e.arguments a := by
  by_cases empty : e.arguments a = []
  · have unopened : dropLead? ['('] (trimEnd suffix) = none := by
      rw [← Option.not_isSome_iff_eq_none, dropLead?_isSome_iff]
      rintro ⟨rest, opened⟩
      obtain ⟨⟨after, back, -⟩, -⟩ := trimEnd_spec suffix
      apply closed empty
      rw [back, ← opened]
      rfl
    rw [argumentText, if_pos empty, List.append_nil, trim_append e.name_ne_nil e.isTrimmed_name,
      dropLead?_append, Option.bind_some, unopened, empty]
    rfl
  · have opens : e.name.toList ++ e.argumentText a ≠ [] :=
      List.append_ne_nil_of_left_ne_nil e.name_ne_nil _
    have trimmed : IsTrimmed (e.name.toList ++ e.argumentText a) := by
      constructor
      · rw [List.head?_append_of_ne_nil _ e.name_ne_nil]
        exact e.isTrimmed_name.1
      · intro c last
        rw [argumentText, if_neg empty, ← List.append_assoc, List.getLast?_concat] at last
        cases last
        rfl
    have rest : dropLead? ['('] ('(' :: [',', ' '].intercalate (e.arguments a) ++ [')'] ++
        trimEnd suffix) =
        some ([',', ' '].intercalate (e.arguments a) ++ ')' :: trimEnd suffix) := by
      rw [dropLead?_eq_some_iff]
      simp
    rw [trim_append opens trimmed, List.append_assoc, dropLead?_append, Option.bind_some,
      argumentText, if_neg empty, rest, Option.bind_some,
      splitArguments_joined empty (e.isArgument_arguments a)]
    rfl

/-- The columns that a summing engine names are found, and nothing of its literals or of what
follows its arguments is taken for one. -/
theorem parse_declared (e : SummingEngine) (a : SumArgument) {suffix : String}
    (closed : e.arguments a = [] → suffix.toList.head? ≠ some '(') :
    TableEngine.parse e.name (e.name ++ String.ofList (e.argumentText a) ++ suffix) =
      .summing (a.names.map fun name => String.ofList name.text) := by
  have whole : (e.name ++ String.ofList (e.argumentText a) ++ suffix).toList =
      e.name.toList ++ e.argumentText a ++ suffix.toList := by
    rw [String.toList_append, String.toList_append, String.toList_ofList]
  have columns : sumColumns e.name (e.name ++ String.ofList (e.argumentText a) ++ suffix) =
      a.names.map fun name => String.ofList name.text := by
    have found := e.arguments_text a closed
    rw [← whole] at found
    rw [← e.columnsOf_arguments a, ← found]
    rfl
  rw [TableEngine.parse, if_neg (by cases e <;> simp [name]),
    if_pos (by cases e <;> simp [name]), columns]

/-- The path holds a quote, a comma and a parenthesis, the replica a backslash. -/
def sharded : SummingEngine :=
  replicated (some
    ([.plain '/' (by decide) (by decide), .escaped '\'', .plain ',' (by decide) (by decide),
      .plain '(' (by decide) (by decide)],
    [.escaped '\\', .plain ')' (by decide) (by decide)]))

def amounts : SumArgument :=
  .listed [⟨'a', ['m', 't'], by decide, List.all_eq_true.1 (by decide)⟩,
    ⟨'_', ['2'], by decide, List.all_eq_true.1 (by decide)⟩]

theorem sharded_declared :
    ((sharded.arguments amounts = [] → " ORDER BY (day, 'x')".toList.head? ≠ some '(') ∧
      TableEngine.parse "ReplicatedSummingMergeTree"
        "ReplicatedSummingMergeTree('/\\',(', '\\\\)', (amt, _2)) ORDER BY (day, 'x')" =
          .summing ["amt", "_2"]) ∧
    ((plain.arguments .none = [] → " ORDER BY (day)".toList.head? ≠ some '(') ∧
      TableEngine.parse "SummingMergeTree" "SummingMergeTree ORDER BY (day)" = .summing []) := by
  have listed : sharded.arguments amounts = [] → " ORDER BY (day, 'x')".toList.head? ≠ some '(' :=
    by decide
  have bare : plain.arguments .none = [] → " ORDER BY (day)".toList.head? ≠ some '(' := by
    decide
  have listedText : "ReplicatedSummingMergeTree" ++ String.ofList (sharded.argumentText amounts) ++
      " ORDER BY (day, 'x')" =
      "ReplicatedSummingMergeTree('/\\',(', '\\\\)', (amt, _2)) ORDER BY (day, 'x')" := by
    decide
  have bareText : "SummingMergeTree" ++ String.ofList (plain.argumentText .none) ++
      " ORDER BY (day)" = "SummingMergeTree ORDER BY (day)" := by
    decide
  have listedRead := parse_declared sharded amounts listed
  have bareRead := parse_declared plain .none bare
  rw [show sharded.name = "ReplicatedSummingMergeTree" from rfl, listedText] at listedRead
  rw [show plain.name = "SummingMergeTree" from rfl, bareText] at bareRead
  exact ⟨⟨listed, listedRead⟩, bare, bareRead⟩

end SummingEngine

end SeriesCatalog.ClickHouse.TableEngine
