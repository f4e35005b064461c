import SeriesCatalog.ClickHouse.Query

/-! # Names between back quotes

The server reads a quoted name up to a back quote that is neither doubled nor escaped. Quoting
doubles the back quotes of a name but leaves its backslashes, which escape what comes after them. So
a name is read back exactly if it has no backslash, and the quotation ends where it should exactly
if no backslash of the name escapes a back quote. A reading takes two backslashes for one of a name,
by which a statement is read as it was meant only if none of its names has any.
-/

namespace SeriesCatalog.ClickHouse

/-- How one character of a name is written in a quotation. After a backslash a character has no
meaning of its own. -/
inductive NameUnit where
  | plain (c : Char) (noQuote : c ≠ '`') (noEscape : c ≠ '\\')
  | quote
  | escaped (c : Char)

namespace NameUnit

def text : NameUnit → List Char
  | plain c _ _ => [c]
  | quote => ['`', '`']
  | escaped c => ['\\', c]

def char : NameUnit → Char
  | plain c _ _ => c
  | quote => '`'
  | escaped c => c

end NameUnit

/-- What was read, and before it one more character of the name. -/
def withFirst (c : Char) (read : List Char × List Char) : List Char × List Char :=
  (c :: read.1, read.2)

/-- A name as it is read from after the opening back quote, and the text after the closing one. -/
def readQuoted? : List Char → Option (List Char × List Char)
  | '`' :: '`' :: rest => (readQuoted? rest).map (withFirst '`')
  | '`' :: rest => some ([], rest)
  | '\\' :: c :: rest => (readQuoted? rest).map (withFirst c)
  | c :: rest => if c = '\\' then none else (readQuoted? rest).map (withFirst c)
  | [] => none

/-- A quoted name, and the text after the quotation. -/
def readIdentifier? : List Char → Option (List Char × List Char)
  | '`' :: rest => readQuoted? rest
  | _ => none

def doubled (name : List Char) : List Char :=
  name.flatMap fun c => if c = '`' then ['`', '`'] else [c]

/-- No backslash escapes a back quote, be it one of the name or the one that closes the quotation.
-/
def Contained : List Char → Prop
  | '\\' :: c :: name => c ≠ '`' ∧ Contained name
  | c :: name => c ≠ '\\' ∧ Contained name
  | [] => True

section Quotation

variable {c : Char} {name other text rest : List Char}

theorem toList_quoteIdentifier (name : String) :
    (quoteIdentifier name).toList = '`' :: doubled name.toList ++ ['`'] :=
  String.toList_ofList

theorem readIdentifier?_quoteIdentifier (name : String) (rest : List Char) :
    readIdentifier? ((quoteIdentifier name).toList ++ rest) =
      readQuoted? (doubled name.toList ++ '`' :: rest) := by
  rw [toList_quoteIdentifier]
  simp [readIdentifier?]

theorem doubled_quote (name : List Char) : doubled ('`' :: name) = '`' :: '`' :: doubled name := by
  simp [doubled]

theorem doubled_other (noQuote : c ≠ '`') (name : List Char) :
    doubled (c :: name) = c :: doubled name := by
  simp [doubled, noQuote]

theorem readQuoted?_closing (ends : rest.head? ≠ some '`') :
    readQuoted? ('`' :: rest) = some ([], rest) := by
  rw [readQuoted?]
  rintro more rfl
  exact ends rfl

theorem readQuoted?_plain (noQuote : c ≠ '`') (noEscape : c ≠ '\\') (rest : List Char) :
    readQuoted? (c :: rest) = (readQuoted? rest).map (withFirst c) := by
  rw [readQuoted?, if_neg noEscape]
  all_goals simp [noQuote, noEscape]

/-- A back quote of the name is read from two of them, and any other character from itself. -/
theorem readQuoted?_doubled (noEscape : c ≠ '\\') (name rest : List Char) :
    readQuoted? (doubled (c :: name) ++ rest) =
      (readQuoted? (doubled name ++ rest)).map (withFirst c) := by
  by_cases quote : c = '`'
  · subst quote
    rw [doubled_quote, List.cons_append, List.cons_append, readQuoted?]
  · rw [doubled_other quote, List.cons_append, readQuoted?_plain quote noEscape]

theorem readQuoted?_escaped (noQuote : c ≠ '`') (name rest : List Char) :
    readQuoted? (doubled ('\\' :: c :: name) ++ rest) =
      (readQuoted? (doubled name ++ rest)).map (withFirst c) := by
  rw [doubled_other (by decide), doubled_other noQuote, List.cons_append, List.cons_append,
    readQuoted?]

theorem map_withFirst_eq_some_iff {read : Option (List Char × List Char)} :
    read.map (withFirst c) = some (name, rest) ↔
      ∃ later, read = some (later, rest) ∧ name = c :: later := by
  rw [Option.map_eq_some_iff]
  constructor
  · rintro ⟨⟨later, after⟩, rfl, same⟩
    cases same
    exact ⟨later, rfl, rfl⟩
  · rintro ⟨later, rfl, rfl⟩
    exact ⟨_, rfl, rfl⟩

/-- Whatever is read was written unit by unit, up to the closing back quote. -/
theorem readQuoted?_units (read : readQuoted? text = some (name, rest)) :
    ∃ units : List NameUnit,
      text = units.flatMap NameUnit.text ++ '`' :: rest ∧ name = units.map NameUnit.char := by
  fun_induction readQuoted? text generalizing name with
  | case1 text ih =>
    obtain ⟨later, below, rfl⟩ := map_withFirst_eq_some_iff.1 read
    obtain ⟨units, rfl, rfl⟩ := ih below
    exact ⟨.quote :: units, rfl, rfl⟩
  | case2 text single =>
    cases read
    exact ⟨[], rfl, rfl⟩
  | case3 c text ih =>
    obtain ⟨later, below, rfl⟩ := map_withFirst_eq_some_iff.1 read
    obtain ⟨units, rfl, rfl⟩ := ih below
    exact ⟨.escaped c :: units, rfl, rfl⟩
  | case4 => cases read
  | case5 c text double closing escape noEscape ih =>
    obtain ⟨later, below, rfl⟩ := map_withFirst_eq_some_iff.1 read
    obtain ⟨units, rfl, rfl⟩ := ih below
    exact ⟨.plain c closing noEscape :: units, rfl, rfl⟩
  | case6 => cases read

theorem readQuoted?_ne_self (name rest : List Char) : readQuoted? rest ≠ some (name, rest) := by
  intro read
  obtain ⟨units, same, -⟩ := readQuoted?_units read
  have longer := congrArg List.length same
  rw [List.length_append, List.length_cons] at longer
  omega

theorem count_first (c d : Char) (text : List Char) :
    (d :: text).count c = [d].count c + text.count c := by
  rw [← List.count_append, List.singleton_append]

theorem NameUnit.count_text (units : List NameUnit) :
    2 * (units.map char).count '\\' ≤ (units.flatMap NameUnit.text).count '\\' := by
  induction units with
  | nil => exact Nat.le_refl 0
  | cons unit units ih =>
    have first : 2 * [unit.char].count '\\' ≤ unit.text.count '\\' := by
      cases unit with
      | plain c noQuote noEscape => simp [char, NameUnit.text, noEscape]
      | quote => decide
      | escaped c =>
        have most : [c].count '\\' ≤ 1 := List.count_le_length
        have one : ['\\', c].count '\\' = [c].count '\\' + 1 := List.count_cons_self
        simp only [char, NameUnit.text]
        omega
    rw [List.map_cons, List.flatMap_cons, List.count_append, count_first]
    omega

theorem readQuoted?_escapes (read : readQuoted? text = some (name, rest)) :
    2 * name.count '\\' + rest.count '\\' ≤ text.count '\\' := by
  obtain ⟨units, rfl, rfl⟩ := readQuoted?_units read
  have fewer := NameUnit.count_text units
  rw [List.count_append, List.count_cons_of_ne (by decide)]
  omega

theorem readIdentifier?_escapes (read : readIdentifier? text = some (name, rest)) :
    2 * name.count '\\' + rest.count '\\' ≤ text.count '\\' := by
  cases text with
  | nil => cases read
  | cons c text =>
    by_cases quote : c = '`'
    · subst quote
      exact Nat.le_trans (readQuoted?_escapes read) List.count_le_count_cons
    · rw [readIdentifier?] at read
      · cases read
      · simpa using quote

theorem count_doubled (other : c ≠ '`') (name : List Char) :
    (doubled name).count c = name.count c := by
  induction name with
  | nil => rfl
  | cons d name ih =>
    by_cases quote : d = '`'
    · subst quote
      rw [doubled_quote, List.count_cons_of_ne other.symm, List.count_cons_of_ne other.symm,
        List.count_cons_of_ne other.symm, ih]
    · rw [doubled_other quote, List.count_cons, List.count_cons, ih]

theorem count_quoteIdentifier (other : c ≠ '`') (name : String) :
    (quoteIdentifier name).toList.count c = name.toList.count c := by
  have closing : ['`'].count c = 0 := List.count_eq_zero.2 (by simpa using other)
  rw [toList_quoteIdentifier, List.cons_append, List.count_cons_of_ne other.symm,
    List.count_append, count_doubled other, closing, Nat.add_zero]

/-- Without backslashes, each character of the name is read from what was written for it. -/
theorem readQuoted?_name (noEscape : '\\' ∉ name) (ends : rest.head? ≠ some '`') :
    readQuoted? (doubled name ++ '`' :: rest) = some (name, rest) := by
  induction name with
  | nil => exact readQuoted?_closing ends
  | cons c name ih =>
    obtain ⟨different, later⟩ := not_or.1 (mt List.mem_cons.2 noEscape)
    rw [readQuoted?_doubled (Ne.symm different), ih later]
    rfl

theorem readIdentifier?_name_iff {name : String} (ends : rest.head? ≠ some '`') :
    readIdentifier? ((quoteIdentifier name).toList ++ rest) = some (name.toList, rest) ↔
      '\\' ∉ name.toList := by
  rw [readIdentifier?_quoteIdentifier]
  constructor
  · intro read
    have twice := readQuoted?_escapes read
    rw [List.count_append, List.count_cons_of_ne (by decide), count_doubled (by decide)] at twice
    exact List.count_eq_zero.1 (by omega)
  · intro noEscape
    exact readQuoted?_name noEscape ends

/-- The quotation of a contained name is read to its end, though not always as that name. -/
theorem Contained.read (contained : Contained name) (ends : rest.head? ≠ some '`') :
    ∃ other, readQuoted? (doubled name ++ '`' :: rest) = some (other, rest) := by
  fun_induction Contained name with
  | case1 c name ih =>
    obtain ⟨other, read⟩ := ih contained.2
    exact ⟨c :: other, by rw [readQuoted?_escaped contained.1, read]; rfl⟩
  | case2 c name escape ih =>
    obtain ⟨other, read⟩ := ih contained.2
    exact ⟨c :: other, by rw [readQuoted?_doubled contained.1, read]; rfl⟩
  | case3 => exact ⟨[], readQuoted?_closing ends⟩

/-- A back quote that lost its pair closes the quotation early, or it takes the closing one. -/
theorem readQuoted?_stray (name rest other : List Char) :
    readQuoted? ('`' :: (doubled name ++ '`' :: rest)) ≠ some (other, rest) := by
  induction name generalizing other with
  | nil =>
    intro read
    rw [doubled, List.flatMap_nil, List.nil_append, readQuoted?] at read
    obtain ⟨later, below, -⟩ := map_withFirst_eq_some_iff.1 read
    exact readQuoted?_ne_self later rest below
  | cons c name ih =>
    intro read
    by_cases quote : c = '`'
    · subst quote
      rw [doubled_quote, List.cons_append, readQuoted?] at read
      obtain ⟨later, below, -⟩ := map_withFirst_eq_some_iff.1 read
      exact ih later below
    · rw [doubled_other quote, List.cons_append, readQuoted?_closing (by simpa using quote)] at read
      have longer := congrArg List.length (Prod.mk.inj (Option.some.inj read)).2
      simp only [List.length_append, List.length_cons] at longer
      omega

theorem contained_of_read (read : readQuoted? (doubled name ++ '`' :: rest) = some (other, rest)) :
    Contained name := by
  fun_induction Contained name generalizing other with
  | case1 c name ih =>
    by_cases quote : c = '`'
    · subst quote
      rw [doubled_other (by decide), doubled_quote, List.cons_append, List.cons_append,
        readQuoted?] at read
      obtain ⟨later, below, -⟩ := map_withFirst_eq_some_iff.1 read
      exact absurd below (readQuoted?_stray name rest later)
    · rw [readQuoted?_escaped quote] at read
      obtain ⟨later, below, -⟩ := map_withFirst_eq_some_iff.1 read
      exact ⟨quote, ih below⟩
  | case2 c name last ih =>
    by_cases escape : c = '\\'
    · -- A backslash that is no pair of its own is the last character and takes the closing quote.
      subst escape
      cases name with
      | nil =>
        rw [doubled_other (by decide), List.cons_append, doubled, List.flatMap_nil,
          List.nil_append, readQuoted?] at read
        obtain ⟨later, below, -⟩ := map_withFirst_eq_some_iff.1 read
        exact absurd below (readQuoted?_ne_self later rest)
      | cons next name => exact (last next name rfl rfl).elim
    · rw [readQuoted?_doubled escape] at read
      obtain ⟨later, below, -⟩ := map_withFirst_eq_some_iff.1 read
      exact ⟨escape, ih below⟩
  | case3 => trivial

theorem readIdentifier?_contained_iff {name : String} (ends : rest.head? ≠ some '`') :
    (∃ other, readIdentifier? ((quoteIdentifier name).toList ++ rest) = some (other, rest)) ↔
      Contained name.toList := by
  rw [readIdentifier?_quoteIdentifier]
  constructor
  · rintro ⟨other, read⟩
    exact contained_of_read read
  · intro contained
    exact contained.read ends

end Quotation

/-- What a statement consists of for its reader: names in quotations, and characters outside. -/
inductive Lexeme where
  | name (name : List Char)
  | char (c : Char)

/-- How a statement is read from its first character on. -/
inductive ReadsAs : List Char → List Lexeme → Prop where
  | nil : ReadsAs [] []
  | char {c : Char} {rest : List Char} {lexemes : List Lexeme} (noQuote : c ≠ '`')
    (later : ReadsAs rest lexemes) : ReadsAs (c :: rest) (.char c :: lexemes)
  | name {text name rest : List Char} {lexemes : List Lexeme}
    (read : readIdentifier? text = some (name, rest)) (later : ReadsAs rest lexemes) :
    ReadsAs text (.name name :: lexemes)

/-- A part of a statement up to a name and the name itself. -/
structure Clause where
  text : List Char
  name : String

namespace Clause

def written (clause : Clause) : List Char :=
  clause.text ++ (quoteIdentifier clause.name).toList

def lexemes (clause : Clause) : List Lexeme :=
  clause.text.map .char ++ [.name clause.name.toList]

end Clause

/-- The text keeps the names before and after it apart and is read as it stands. -/
structure Separates (text : List Char) : Prop where
  nonempty : text ≠ []
  noQuote : '`' ∉ text

/-- The number of backslashes that lexemes are read from at least. -/
def escapes : List Lexeme → Nat
  | [] => 0
  | .name n :: lexemes => 2 * n.count '\\' + escapes lexemes
  | .char c :: lexemes => [c].count '\\' + escapes lexemes

theorem escapes_text (text : List Char) (lexemes : List Lexeme) :
    escapes (text.map .char ++ lexemes) = text.count '\\' + escapes lexemes := by
  induction text with
  | nil => exact (Nat.zero_add _).symm
  | cons c text ih =>
    rw [List.map_cons, List.cons_append, escapes, ih, count_first '\\' c text, Nat.add_assoc]

/-- Each backslash of a name is one too few. -/
theorem escapes_clauses (clauses : List Clause) :
    escapes (clauses.flatMap Clause.lexemes) =
      (clauses.flatMap Clause.written).count '\\' +
        (clauses.flatMap (·.name.toList)).count '\\' := by
  induction clauses with
  | nil => rfl
  | cons clause clauses ih =>
    have name := count_quoteIdentifier (c := '\\') (by decide) clause.name
    simp only [List.flatMap_cons, Clause.lexemes, Clause.written, List.append_assoc, escapes_text,
      List.singleton_append, escapes, ih, List.count_append, name]
    omega

namespace ReadsAs

variable {written rest : List Char} {lexemes : List Lexeme} {clauses : List Clause}

theorem text (noQuote : '`' ∉ written) (later : ReadsAs rest lexemes) :
    ReadsAs (written ++ rest) (written.map .char ++ lexemes) := by
  induction written with
  | nil => exact later
  | cons c written ih =>
    obtain ⟨different, others⟩ := not_or.1 (mt List.mem_cons.2 noQuote)
    exact .char (Ne.symm different) (ih others)

theorem of_clauses (separated : ∀ clause ∈ clauses, Separates clause.text)
    (noEscape : ∀ clause ∈ clauses, '\\' ∉ clause.name.toList) :
    ReadsAs (clauses.flatMap Clause.written) (clauses.flatMap Clause.lexemes) := by
  induction clauses with
  | nil => exact .nil
  | cons clause clauses ih =>
    rw [List.forall_mem_cons] at separated noEscape
    -- After the name comes the text of the next clause, or nothing.
    have ends : (clauses.flatMap Clause.written).head? ≠ some '`' := by
      cases clauses with
      | nil => simp
      | cons next others =>
        obtain ⟨nonempty, noQuote⟩ := separated.2 next List.mem_cons_self
        obtain ⟨c, more, same⟩ := List.exists_cons_of_ne_nil nonempty
        rw [same] at noQuote
        simp only [List.flatMap_cons, Clause.written, same, List.cons_append, List.head?_cons]
        rintro ⟨⟩
        exact noQuote List.mem_cons_self
    have read := (readIdentifier?_name_iff ends).2 noEscape.1
    rw [List.flatMap_cons, List.flatMap_cons, Clause.written, Clause.lexemes, List.append_assoc,
      List.append_assoc]
    exact text separated.1.noQuote (.name read (ih separated.2 noEscape.2))

theorem escapes_le (reads : ReadsAs written lexemes) : escapes lexemes ≤ written.count '\\' := by
  induction reads with
  | nil => exact Nat.le_refl 0
  | @char c rest lexemes noQuote later ih =>
    rw [escapes, count_first '\\' c rest]
    exact Nat.add_le_add_left ih _
  | @name written name rest lexemes read later ih =>
    have twice := readIdentifier?_escapes read
    rw [escapes]
    exact Nat.le_trans (Nat.add_le_add_left ih _) twice

/-- A statement is read as it was meant exactly if no name in it has a backslash. -/
theorem clauses_iff (separated : ∀ clause ∈ clauses, Separates clause.text) :
    ReadsAs (clauses.flatMap Clause.written) (clauses.flatMap Clause.lexemes) ↔
      ∀ clause ∈ clauses, '\\' ∉ clause.name.toList := by
  constructor
  · intro reads
    have fewer := escapes_le reads
    rw [escapes_clauses] at fewer
    have none : '\\' ∉ clauses.flatMap (·.name.toList) := List.count_eq_zero.1 (by omega)
    intro clause member escape
    exact none (List.mem_flatMap.2 ⟨clause, member, escape⟩)
  · intro noEscape
    exact of_clauses separated noEscape

end ReadsAs

/-- The query for the bounds of a column, cut after each name in it. -/
def boundsClauses (database table column : String) : List Clause :=
  [⟨"SELECT count() AS row_count, toUnixTimestamp64Milli(toDateTime64(min(".toList, column⟩,
    ⟨"), 3)) AS min_ms, toUnixTimestamp64Milli(toDateTime64(max(".toList, column⟩,
    ⟨"), 3)) AS max_ms FROM ".toList, database⟩, ⟨".".toList, table⟩]

theorem boundsText_clauses (database table column : String) :
    (boundsText database table column).toList =
      (boundsClauses database table column).flatMap Clause.written := by
  delta boundsText
  simp only [String.toList_append, List.append_assoc, boundsClauses, List.flatMap_cons,
    List.flatMap_nil, Clause.written, List.append_nil]

theorem boundsClauses_separated (database table column : String) :
    ∀ clause ∈ boundsClauses database table column, Separates clause.text := by
  have select : Separates
      "SELECT count() AS row_count, toUnixTimestamp64Milli(toDateTime64(min(".toList :=
    ⟨by decide, by decide⟩
  have least : Separates "), 3)) AS min_ms, toUnixTimestamp64Milli(toDateTime64(max(".toList :=
    ⟨by decide, by decide⟩
  have greatest : Separates "), 3)) AS max_ms FROM ".toList := ⟨by decide, by decide⟩
  have dot : Separates ".".toList := ⟨by decide, by decide⟩
  simp only [boundsClauses, List.forall_mem_cons]
  exact ⟨select, least, greatest, dot, nofun⟩

theorem boundsText_readsAs_iff {database table column : String} :
    ReadsAs (boundsText database table column).toList
        ((boundsClauses database table column).flatMap Clause.lexemes) ↔
      '\\' ∉ database.toList ∧ '\\' ∉ table.toList ∧ '\\' ∉ column.toList := by
  rw [boundsText_clauses, ReadsAs.clauses_iff (boundsClauses_separated database table column)]
  simp only [boundsClauses, List.forall_mem_cons]
  constructor
  · rintro ⟨column, -, database, table, -⟩
    exact ⟨database, table, column⟩
  · rintro ⟨database, table, column⟩
    exact ⟨column, column, database, table, nofun⟩

/-- A quoted name is read back, and what follows it is left, if and only if the name has no
backslash. The quotation ends where it should if and only if no backslash in it escapes a back
quote. The bounds query is read as it was meant if and only if none of its names has a backslash. -/
theorem names_read_back_iff (database table column : String) :
    (∀ (name : String) (rest : List Char), rest.head? ≠ some '`' →
      (readIdentifier? ((quoteIdentifier name).toList ++ rest) = some (name.toList, rest) ↔
        '\\' ∉ name.toList) ∧
      ((∃ other, readIdentifier? ((quoteIdentifier name).toList ++ rest) = some (other, rest)) ↔
        Contained name.toList)) ∧
    (ReadsAs (boundsText database table column).toList
        ((boundsClauses database table column).flatMap Clause.lexemes) ↔
      '\\' ∉ database.toList ∧ '\\' ∉ table.toList ∧ '\\' ∉ column.toList) := by
  constructor
  · intro name rest ends
    exact ⟨readIdentifier?_name_iff ends, readIdentifier?_contained_iff ends⟩
  · exact boundsText_readsAs_iff

/-- A name with back quotes at both ends, and one without any character. -/
theorem odd_names_read_back :
    readIdentifier? ((quoteIdentifier "``we`ird`").toList ++ " FROM `t`".toList) =
        some ("``we`ird`".toList, " FROM `t`".toList) ∧
      readIdentifier? ((quoteIdentifier "").toList ++ ['.']) = some ([], ['.']) ∧
      ReadsAs (boundsText "default" "page`views" "").toList
        ((boundsClauses "default" "page`views" "").flatMap Clause.lexemes) := by
  obtain ⟨names, bounds⟩ := names_read_back_iff "default" "page`views" ""
  refine ⟨?_, ?_, ?_⟩
  · exact (names "``we`ird`" " FROM `t`".toList (by decide)).1.2 (by decide)
  · exact (names "" ['.'] (by decide)).1.2 (by decide)
  · exact bounds.2 ⟨by decide, by decide, by decide⟩

/-- A backslash at the end of a name takes away the closing back quote, so that the name goes on to
the next one or for ever. Before a back quote it ends the name there. -/
theorem backslashes_mislead_reader :
    readIdentifier? ((quoteIdentifier "ts\\").toList ++ ")".toList) = none ∧
      readIdentifier? ((quoteIdentifier "ts\\").toList ++ "), max(".toList ++
        (quoteIdentifier "ts\\").toList) = some ("ts`), max(".toList, "ts\\`".toList) ∧
      readIdentifier? ((quoteIdentifier "\\` FROM t").toList ++ ")".toList) =
        some ("`".toList, " FROM t`)".toList) ∧
      ¬ ReadsAs (boundsText "default" "sales" "ts\\").toList
        ((boundsClauses "default" "sales" "ts\\").flatMap Clause.lexemes) := by
  refine ⟨by decide, by decide, by decide, ?_⟩
  rw [boundsText_readsAs_iff]
  decide

end SeriesCatalog.ClickHouse
