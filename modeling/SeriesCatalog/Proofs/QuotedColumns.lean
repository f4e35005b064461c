import SeriesCatalog.Proofs.EngineArguments

/-! # Back-quoted columns of a summing engine

A column whose name is no plain identifier stands between back quotes. The scanner knows single
quotes and parentheses but not back quotes, so that it takes what stands inside a name for what it
means outside. Which lists of names are read nevertheless is decided by three things: where the
scanner finds the closing parenthesis, the commas, and the ends of the names.
-/

namespace SeriesCatalog.ClickHouse.TableEngine

open Text

/-- What stands between the names of a list, and around each of them. -/
def isSeparator (c : Char) : Bool :=
  c == ',' || c == ' ' || c == '`'

namespace Place

/-- Where a character takes the scanner. Only the parenthesis that closes the arguments ends its
way. Backslashes are left out here. -/
def step (p : Place) (c : Char) : Option Place :=
  if c = '\'' then some ⟨p.depth, !p.quoted⟩
  else if p.quoted then some p
  else if c = '(' then some ⟨p.depth + 1, false⟩
  else if c = ')' then
    match p.depth with
    | 0 => none
    | depth + 1 => some ⟨depth, false⟩
  else some p

def walk (p : Place) : List Char → Option Place
  | [] => some p
  | c :: rest => (p.step c).bind fun q => q.walk rest

/-- The text before the parenthesis that closes the arguments. -/
def closing (p : Place) : List Char → Option (List Char)
  | [] => none
  | c :: rest =>
    match p.step c with
    | none => some []
    | some q => (q.closing rest).map (c :: ·)

/-- What can happen at a character. -/
inductive Moves : Place → Char → Option Place → Prop where
  | quote (depth : Nat) (quoted : Bool) : Moves ⟨depth, quoted⟩ '\'' (some ⟨depth, !quoted⟩)
  | literal {c : Char} (depth : Nat) (noQuote : c ≠ '\'') :
    Moves ⟨depth, true⟩ c (some ⟨depth, true⟩)
  | opening (depth : Nat) : Moves ⟨depth, false⟩ '(' (some ⟨depth + 1, false⟩)
  | closing (depth : Nat) : Moves ⟨depth + 1, false⟩ ')' (some ⟨depth, false⟩)
  | last : Moves outside ')' none
  | comma (depth : Nat) : Moves ⟨depth, false⟩ ',' (some ⟨depth, false⟩)
  | plain {c : Char} (depth : Nat) (plain : Plain c) : Moves ⟨depth, false⟩ c (some ⟨depth, false⟩)

variable {p q : Place} {c : Char} {text rest : List Char}

theorem moves_step (p : Place) (c : Char) : Moves p c (p.step c) := by
  obtain ⟨depth, quoted⟩ := p
  by_cases quote : c = '\''
  · subst quote
    exact .quote depth quoted
  · cases quoted with
    | true =>
      have stays : step ⟨depth, true⟩ c = some ⟨depth, true⟩ := by simp [step, quote]
      rw [stays]
      exact .literal depth quote
    | false =>
      by_cases opening : c = '('
      · subst opening
        exact .opening depth
      · by_cases closing : c = ')'
        · subst closing
          cases depth with
          | zero => exact .last
          | succ depth => exact .closing depth
        · have stays : step ⟨depth, false⟩ c = some ⟨depth, false⟩ := by
            simp [step, quote, opening, closing]
          rw [stays]
          by_cases comma : c = ','
          · subst comma
            exact .comma depth
          · exact .plain depth (by simp [Plain, quote, opening, closing, comma])

theorem step_eq_none (ended : p.step c = none) : p = outside ∧ c = ')' := by
  have moves := moves_step p c
  rw [ended] at moves
  cases moves
  exact ⟨rfl, rfl⟩

theorem step_separator (separator : isSeparator c = true) : p.step c = some p := by
  simp only [isSeparator, Bool.or_eq_true, beq_iff_eq] at separator
  rcases separator with (rfl | rfl) | rfl <;> simp [step]

theorem walk_filter (text : List Char) :
    p.walk (text.filter (!isSeparator ·)) = p.walk text := by
  induction text generalizing p with
  | nil => rfl
  | cons c text ih =>
    cases separator : isSeparator c with
    | true =>
      rw [List.filter_cons_of_neg (by simp [separator]), walk, step_separator separator,
        Option.bind_some]
      exact ih
    | false =>
      rw [List.filter_cons_of_pos (by simp [separator]), walk, walk]
      congr 1
      funext q
      exact ih

theorem closing_append (walked : p.walk text = some q) :
    p.closing (text ++ rest) = (q.closing rest).map (text ++ ·) := by
  induction text generalizing p with
  | nil =>
    cases walked
    exact Option.map_id'.symm
  | cons c text ih =>
    obtain ⟨next, stepped, later⟩ := Option.bind_eq_some_iff.1 walked
    rw [List.cons_append, closing, stepped]
    simp only [ih later, Option.map_map]
    rfl

theorem closing_ended (ended : p.walk text = none) (rest : List Char) :
    ∃ before after, text = before ++ ')' :: after ∧ p.closing (text ++ rest) = some before := by
  induction text generalizing p with
  | nil => cases ended
  | cons c text ih =>
    rw [List.cons_append, closing]
    cases stepped : p.step c with
    | none =>
      obtain ⟨-, rfl⟩ := step_eq_none stepped
      exact ⟨[], text, rfl, rfl⟩
    | some q =>
      rw [walk, stepped, Option.bind_some] at ended
      obtain ⟨before, after, rfl, found⟩ := ih ended
      refine ⟨c :: before, after, rfl, ?_⟩
      simp only [found, Option.map_some]

end Place

/-- Putting a character before the parts puts it before the text that they make up. -/
def Lengthens (c : Char) (extend : List (List Char) → List (List Char)) : Prop :=
  ∀ parts ≠ [], extend parts ≠ [] ∧ [','].intercalate (extend parts) = c :: [','].intercalate parts

theorem lengthens_extendFirst (c : Char) : Lengthens c (extendFirst c) := by
  intro parts nonempty
  cases parts with
  | nil => exact absurd rfl nonempty
  | cons part others =>
    refine ⟨List.cons_ne_nil _ _, ?_⟩
    cases others <;> simp [extendFirst, List.intercalate_cons_cons]

theorem lengthens_comma : Lengthens ',' ([] :: ·) := by
  intro parts nonempty
  cases parts with
  | nil => exact absurd rfl nonempty
  | cons part others => exact ⟨List.cons_ne_nil _ _, List.intercalate_cons_cons⟩

theorem splitParts_step {p q : Place} {c : Char} (noEscape : c ≠ '\\') (stepped : p.step c = some q)
    (rest : List Char) : ∃ extend, Lengthens c extend ∧
      splitParts p.depth p.quoted (c :: rest) = (splitParts q.depth q.quoted rest).map extend := by
  have moves := Place.moves_step p c
  rw [stepped] at moves
  cases moves with
  | quote depth quoted =>
    exact ⟨_, lengthens_extendFirst _, splitParts_quote depth quoted rest⟩
  | literal depth noQuote =>
    exact ⟨_, lengthens_extendFirst _, splitParts_quoted noQuote noEscape rest⟩
  | opening depth => exact ⟨_, lengthens_extendFirst _, splitParts_opening depth rest⟩
  | closing depth => exact ⟨_, lengthens_extendFirst _, by simp [splitParts]⟩
  | comma depth =>
    -- Only a comma that is not nested begins a new part.
    cases depth with
    | zero => exact ⟨_, lengthens_comma, by simp [splitParts]⟩
    | succ depth => exact ⟨_, lengthens_extendFirst _, by simp [splitParts]⟩
  | plain depth plain => exact ⟨_, lengthens_extendFirst _, splitParts_plain plain rest⟩

theorem splitParts_closing {p : Place} {text : List Char} (noEscape : '\\' ∉ text) :
    (splitParts p.depth p.quoted text).map [','].intercalate = p.closing text ∧
      ∀ parts ∈ splitParts p.depth p.quoted text, parts ≠ [] := by
  induction text generalizing p with
  | nil => simp [splitParts, Place.closing]
  | cons c text ih =>
    rw [List.mem_cons, not_or] at noEscape
    cases stepped : p.step c with
    | none =>
      obtain ⟨rfl, rfl⟩ := Place.step_eq_none stepped
      have closed : splitParts 0 false (')' :: text) = some [[]] := by simp [splitParts]
      simp [Place.outside, closed, Place.closing, Place.step]
    | some q =>
      obtain ⟨extend, lengthens, split⟩ := splitParts_step (Ne.symm noEscape.1) stepped text
      obtain ⟨joined, nonempty⟩ := ih (p := q) noEscape.2
      rw [split, Place.closing, stepped]
      simp only
      rw [← joined, Option.map_map, Option.map_map]
      constructor
      · refine Option.map_congr fun parts found => ?_
        exact (lengthens parts (nonempty parts found)).2
      · intro parts found
        obtain ⟨others, later, rfl⟩ := Option.map_eq_some_iff.1 found
        exact (lengthens others (nonempty others later)).1

def columnsIn (text : List Char) : List (List Char) :=
  ((splitAll ',' text).map fun part => unframe (trim part)).filter
    fun part => !part.isEmpty && !isLiteral part

theorem columnsIn_append (first rest : List Char) :
    columnsIn (first ++ ',' :: rest) = columnsIn first ++ columnsIn rest := by
  rw [columnsIn, splitAll_append_cons, List.map_append, List.filter_append]
  rfl

theorem columnsIn_trim (text : List Char) : columnsIn (trim text) = columnsIn text := by
  have visible : isBlank ',' = false := rfl
  have parts := map_trim_splitAll_trim visible text
  have unframed := congrArg (List.map unframe) parts
  rw [List.map_map, List.map_map] at unframed
  exact congrArg (List.filter _) unframed

/-- Where commas are taken for separators everywhere, it makes no difference which of them already
separated the arguments. -/
theorem columnsIn_intercalate {parts : List (List Char)} (nonempty : parts ≠ []) :
    ((parts.map trim).filter (!·.isEmpty)).flatMap columnsIn =
      columnsIn ([','].intercalate parts) := by
  have each : ∀ part : List Char,
      ([trim part].filter (!·.isEmpty)).flatMap columnsIn = columnsIn part := by
    intro part
    rw [← columnsIn_trim part]
    cases trim part with
    | nil => rfl
    | cons c rest => simp
  induction parts with
  | nil => exact absurd rfl nonempty
  | cons part others ih =>
    cases others with
    | nil => rw [List.intercalate_singleton]; exact each part
    | cons next more =>
      have later := ih (List.cons_ne_nil _ _)
      rw [List.intercalate_cons_cons, List.append_assoc, List.singleton_append, columnsIn_append,
        ← later, ← each part, ← List.flatMap_append, ← List.filter_append,
        List.map_cons (f := trim)]
      rfl

theorem columnsOf_split {text : List Char} (noEscape : '\\' ∉ text) :
    columnsOf false ((splitArguments text).getD []) =
      (((Place.outside.closing text).map columnsIn).getD []).map String.ofList := by
  have columns (arguments : List (List Char)) :
      columnsOf false arguments = (arguments.flatMap columnsIn).map String.ofList := by
    have kept : arguments.dropWhile (fun argument => false && isLiteral argument) = arguments :=
      List.dropWhile_eq_self_iff.2 fun _ => by simp
    simp only [columnsOf, kept, List.map_flatMap, List.filter_flatMap]
    rfl
  obtain ⟨joined, nonempty⟩ := splitParts_closing (p := .outside) noEscape
  rw [columns, ← joined, splitArguments]
  simp only [Place.outside] at nonempty ⊢
  cases found : splitParts 0 false text with
  | none => rfl
  | some parts =>
    simp only [Option.map_some, Option.getD_some]
    rw [columnsIn_intercalate (nonempty parts found)]

theorem columnsIn_sublist (text : List Char) : (columnsIn text).flatten.Sublist text := by
  have narrower (part : List Char) : (unframe (trim part)).Sublist part :=
    (dropWhile_ends_sublist isFrame (trim part)).trans (dropWhile_ends_sublist isBlank part)
  have parts (all : List (List Char)) :
      ((all.map fun part => unframe (trim part)).filter
        fun part => !part.isEmpty && !isLiteral part).flatten.Sublist all.flatten := by
    induction all with
    | nil => exact List.Sublist.refl _
    | cons part others ih =>
      rw [List.map_cons, List.filter_cons, List.flatten_cons]
      split
      · exact (narrower part).append ih
      · exact ih.trans (List.sublist_append_right part _)
  refine (parts _).trans ?_
  rw [flatten_splitAll]
  exact List.filter_sublist

def backquoted (name : List Char) : List Char :=
  '`' :: name ++ ['`']

def listed (names : List (List Char)) : List Char :=
  [',', ' '].intercalate (names.map backquoted)

/-- The name has no comma, and its ends are taken neither for a frame nor for that of a literal. -/
structure Recognizable (name : List Char) : Prop where
  nonempty : name ≠ []
  noComma : ',' ∉ name
  noLiteral : isLiteral name = false
  first : ∀ c ∈ name.head?, isFrame c = false
  last : ∀ c ∈ name.getLast?, isFrame c = false

theorem isTrimmed_framed {before name after : List Char} (opens : before ≠ []) (closes : after ≠ [])
    (frameBefore : ∀ c ∈ before, isFrame c = true) (frameAfter : ∀ c ∈ after, isFrame c = true) :
    IsTrimmed (before ++ name ++ after) := by
  constructor
  · intro c first
    rw [List.append_assoc, List.head?_append_of_ne_nil _ opens] at first
    exact isBlank_frame (frameBefore c (List.mem_of_head? first))
  · intro c last
    rw [List.getLast?_append_of_ne_nil _ closes] at last
    exact isBlank_frame (frameAfter c (List.mem_of_getLast? last))

namespace Recognizable

theorem standsFor {name : List Char} (r : Recognizable name) :
    StandsFor (backquoted name) name := by
  have backquote : ∀ c ∈ ['`'], isFrame c = true := by simp [isFrame]
  refine ⟨by simp [backquoted, r.noComma], ?_⟩
  intro blanks before after blank frameBefore frameAfter
  have frameBefore' : ∀ c ∈ before ++ ['`'], isFrame c = true :=
    List.forall_mem_append.2 ⟨frameBefore, backquote⟩
  have frameAfter' : ∀ c ∈ ['`'] ++ after, isFrame c = true :=
    List.forall_mem_append.2 ⟨backquote, frameAfter⟩
  have trimmed : IsTrimmed (before ++ ['`'] ++ name ++ (['`'] ++ after)) :=
    isTrimmed_framed (by simp) (by simp) frameBefore' frameAfter'
  have found := unframe_framed blank frameBefore' frameAfter' trimmed r.first r.last
  have regrouped : blanks ++ before ++ backquoted name ++ after =
      blanks ++ (before ++ ['`']) ++ name ++ (['`'] ++ after) := by
    simp [backquoted]
  rw [regrouped]
  exact found

theorem of_mem {name text : List Char} (found : name ∈ columnsIn text) : Recognizable name := by
  obtain ⟨isPart, kept⟩ := List.mem_filter.1 found
  obtain ⟨part, member, rfl⟩ := List.mem_map.1 isPart
  simp only [Bool.and_eq_true, Bool.not_eq_true', List.isEmpty_eq_false_iff] at kept
  obtain ⟨before, after, whole, -, -, first, last⟩ := dropWhile_ends_spec isFrame (trim part)
  refine ⟨kept.1, fun comma => ?_, kept.2, first, last⟩
  have inTrimmed : ',' ∈ trim part := (dropWhile_ends_sublist isFrame (trim part)).subset comma
  exact not_mem_of_mem_splitAll part member
    ((dropWhile_ends_sublist isBlank part).subset inTrimmed)

end Recognizable

theorem columnsIn_listed {names : List (List Char)} (nonempty : names ≠ [])
    (each : ∀ name ∈ names, Recognizable name) {before after : List Char}
    (frame : ∀ c ∈ before, isFrame c = true) (frameAfter : ∀ c ∈ after, isFrame c = true) :
    columnsIn (before ++ listed names ++ after) = names := by
  cases names with
  | nil => exact absurd rfl nonempty
  | cons name others =>
    have stands : ∀ other ∈ name :: others, StandsFor (backquoted other) (id other) :=
      fun other member => (each other member).standsFor
    have found := splitAll_listed name others stands Blanks.nil frame frameAfter
    rw [List.nil_append, List.map_id] at found
    rw [columnsIn, listed, List.map_cons, found]
    refine List.filter_eq_self.2 fun other member => ?_
    have recognizable := each other member
    simp [recognizable.nonempty, recognizable.noLiteral]

theorem filter_listed (names : List (List Char)) :
    (listed names).filter (!isSeparator ·) = names.flatten.filter (!isSeparator ·) := by
  have alone (name : List Char) :
      (backquoted name).filter (!isSeparator ·) = name.filter (!isSeparator ·) := by
    simp [backquoted, isSeparator]
  induction names with
  | nil => rfl
  | cons name others ih =>
    cases others with
    | nil => simpa [listed] using alone name
    | cons next more =>
      have separated : listed (name :: next :: more) =
          backquoted name ++ [',', ' '] ++ listed (next :: more) := List.intercalate_cons_cons
      rw [separated, List.filter_append, List.filter_append, ih, alone, List.flatten_cons,
        List.filter_append]
      simp [isSeparator]

theorem walk_listed (p : Place) (names : List (List Char)) :
    p.walk (listed names) = p.walk names.flatten := by
  rw [← Place.walk_filter, filter_listed, Place.walk_filter]

theorem count_listed {c : Char} (meaning : isSeparator c = false) (names : List (List Char)) :
    (listed names).count c = names.flatten.count c := by
  have same (text : List Char) : (text.filter (!isSeparator ·)).count c = text.count c :=
    List.count_filter (by rw [meaning, Bool.not_false])
  rw [← same, filter_listed, same]

/-- A list that is closed early lacks a parenthesis of its names. -/
theorem columnsIn_ne_of_early {names : List (List Char)} {before after : List Char}
    (early : listed names = before ++ ')' :: after) : columnsIn ('(' :: before) ≠ names := by
  intro found
  have fewer := (columnsIn_sublist ('(' :: before)).count_le ')'
  have opening : ('(' :: before).count ')' = before.count ')' := List.count_cons_of_ne (by decide)
  rw [found, ← count_listed rfl, early, opening, List.count_append, List.count_cons_self] at fewer
  omega

def listEnd : List Char :=
  ")) ORDER BY tuple()".toList

theorem closing_listEnd (depth : Nat) :
    Place.closing ⟨depth, true⟩ listEnd = none ∧
      Place.closing ⟨0, false⟩ listEnd = some [] ∧
      Place.closing ⟨1, false⟩ listEnd = some [')'] ∧
      Place.closing ⟨depth + 2, false⟩ listEnd = none := by
  refine ⟨rfl, rfl, rfl, ?_⟩
  cases depth <;> rfl

/-- Behind the names the scanner is at the place where the list is closed, or already at the one
where the arguments are. -/
def Balanced (names : List (List Char)) : Prop :=
  ∃ depth ≤ 1, Place.walk ⟨1, false⟩ names.flatten = some ⟨depth, false⟩

theorem columnsIn_closing_iff {names : List (List Char)} (nonempty : names ≠ []) :
    ((Place.outside.closing ('(' :: listed names ++ listEnd)).map columnsIn).getD [] = names ↔
      (∀ name ∈ names, Recognizable name) ∧ Balanced names := by
  have opened (rest : List Char) : Place.outside.closing ('(' :: rest) =
      (Place.closing ⟨1, false⟩ rest).map ('(' :: ·) := rfl
  have closedAt (after : List Char) (frameAfter : ∀ c ∈ after, isFrame c = true) :
      columnsIn ('(' :: (listed names ++ after)) = names ↔ ∀ name ∈ names, Recognizable name := by
    constructor
    · intro found name member
      rw [← found] at member
      exact .of_mem member
    · intro each
      have frame : ∀ c ∈ ['('], isFrame c = true := by simp [isFrame]
      exact columnsIn_listed nonempty each frame frameAfter
  rw [List.cons_append, opened, Balanced, ← walk_listed]
  cases walked : Place.walk ⟨1, false⟩ (listed names) with
  | none =>
    obtain ⟨before, after, early, closed⟩ := Place.closing_ended walked listEnd
    rw [closed]
    simpa using columnsIn_ne_of_early early
  | some q =>
    obtain ⟨depth, quoted⟩ := q
    rw [Place.closing_append walked]
    obtain ⟨inLiteral, -⟩ := closing_listEnd depth
    cases quoted with
    | true => simp [inLiteral, nonempty.symm]
    | false =>
      rcases depth with _ | _ | depth
      · obtain ⟨-, ended, -⟩ := closing_listEnd 0
        simpa [ended] using closedAt [] (by simp)
      · obtain ⟨-, -, ended, -⟩ := closing_listEnd 0
        simpa [ended] using closedAt [')'] (by simp [isFrame])
      · obtain ⟨-, -, -, unclosed⟩ := closing_listEnd depth
        simp [unclosed, nonempty.symm]

theorem toList_backquoted (names : List String) :
    (", ".intercalate (names.map fun name => "`" ++ name ++ "`")).toList =
      listed (names.map String.toList) := by
  rw [String.toList_intercalate, listed, List.map_map, List.map_map]
  congr 1
  refine List.map_congr_left fun name _ => ?_
  simp [backquoted]

theorem not_mem_listed {c : Char} (meaning : isSeparator c = false) {names : List (List Char)}
    (absent : ∀ name ∈ names, c ∉ name) : c ∉ listed names := by
  rw [← List.count_eq_zero, count_listed meaning, List.count_eq_zero, List.mem_flatten]
  rintro ⟨name, member, inside⟩
  exact absent name member inside

theorem sumColumns_opened {text : String} {rest : List Char}
    (opens : trim text.toList = "SummingMergeTree".toList ++ '(' :: rest) :
    sumColumns "SummingMergeTree" text = columnsOf false ((splitArguments rest).getD []) := by
  have plain : (dropLead? "Replicated".toList "SummingMergeTree".toList).isSome = false := by
    decide
  have opened : dropLead? ['('] ('(' :: rest) = some rest := dropLead?_append ['('] rest
  rw [sumColumns, plain, opens, dropLead?_append]
  change columnsOf false (((dropLead? ['('] ('(' :: rest)).bind splitArguments).getD []) = _
  rw [opened]
  rfl

/-- The list of names is read back exactly if each name can be told from what surrounds it and the
parentheses and quotes of all of them balance. -/
theorem parse_backquoted_iff {names : List String} (nonempty : names ≠ [])
    (noEscape : ∀ name ∈ names, '\\' ∉ name.toList) :
    TableEngine.parse "SummingMergeTree"
        ("SummingMergeTree((" ++ ", ".intercalate (names.map fun name => "`" ++ name ++ "`") ++
          ")) ORDER BY tuple()") = .summing names ↔
      (∀ name ∈ names, Recognizable name.toList) ∧ Balanced (names.map String.toList) := by
  have opens : trim ("SummingMergeTree((" ++
      ", ".intercalate (names.map fun name => "`" ++ name ++ "`") ++
        ")) ORDER BY tuple()").toList =
      "SummingMergeTree".toList ++ '(' :: ('(' :: listed (names.map String.toList) ++ listEnd) := by
    have lead : "SummingMergeTree((".toList = "SummingMergeTree".toList ++ ['(', '('] := by decide
    -- Stated of any texts, since literals are costly to compare.
    have regrouped (first middle last : List Char) :
        first ++ ['(', '('] ++ middle ++ last = first ++ '(' :: ('(' :: middle ++ last) := by
      simp
    rw [String.toList_append, String.toList_append, toList_backquoted, trim_of_isTrimmed, lead]
    · exact regrouped _ _ _
    · constructor
      · intro c first
        cases first
        rfl
      · intro c last
        rw [List.getLast?_append_of_ne_nil _ (by decide)] at last
        cases last
        rfl
  have noEscapes : '\\' ∉ '(' :: listed (names.map String.toList) ++ listEnd := by
    have inNames : '\\' ∉ listed (names.map String.toList) :=
      not_mem_listed rfl (List.forall_mem_map.2 noEscape)
    rw [List.cons_append, List.mem_cons, List.mem_append, not_or, not_or]
    exact ⟨by decide, inNames, by decide⟩
  have read (columns : List (List Char)) :
      columns.map String.ofList = names ↔ columns = names.map String.toList := by
    constructor
    · rintro rfl
      simp
    · rintro rfl
      simp
  rw [TableEngine.parse, if_neg (by decide), if_pos (by decide), sumColumns_opened opens,
    columnsOf_split noEscapes, TableEngine.summing.injEq, read,
    columnsIn_closing_iff (by simpa using nonempty), List.forall_mem_map]

theorem odd_names_read :
    (["f(x) net", "it's", "o'clock"] ≠ [] ∧
      ∀ name ∈ ["f(x) net", "it's", "o'clock"], '\\' ∉ name.toList) ∧
    TableEngine.parse "SummingMergeTree"
      "SummingMergeTree((`f(x) net`, `it's`, `o'clock`)) ORDER BY tuple()" =
        .summing ["f(x) net", "it's", "o'clock"] := by
  have nonempty : ["f(x) net", "it's", "o'clock"] ≠ [] := by decide
  have noEscape : ∀ name ∈ ["f(x) net", "it's", "o'clock"], '\\' ∉ name.toList := by decide
  have recognizable : ∀ name ∈ ["f(x) net", "it's", "o'clock"], Recognizable name.toList := by
    intro name member
    simp only [List.mem_cons, List.not_mem_nil, or_false] at member
    rcases member with rfl | rfl | rfl <;>
      exact ⟨by decide, by decide, rfl, by simp [isFrame], by simp [isFrame]⟩
  have balanced : Balanced (["f(x) net", "it's", "o'clock"].map String.toList) :=
    ⟨1, Nat.le_refl 1, rfl⟩
  have read := (parse_backquoted_iff nonempty noEscape).2 ⟨recognizable, balanced⟩
  have text : "SummingMergeTree((" ++ ", ".intercalate
      (["f(x) net", "it's", "o'clock"].map fun name => "`" ++ name ++ "`") ++
        ")) ORDER BY tuple()" =
      "SummingMergeTree((`f(x) net`, `it's`, `o'clock`)) ORDER BY tuple()" := by
    decide
  rw [text] at read
  exact ⟨⟨nonempty, noEscape⟩, read⟩

/-- A comma inside a name is taken for the one between two names. -/
theorem comma_splits_name :
    TableEngine.parse "SummingMergeTree" "SummingMergeTree((`a,b`)) ORDER BY tuple()" =
      .summing ["a", "b"] := by
  decide

end SeriesCatalog.ClickHouse.TableEngine
