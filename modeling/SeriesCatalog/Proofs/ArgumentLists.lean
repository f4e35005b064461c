import SeriesCatalog.Proofs.EngineArguments

/-! # Argument lists as they are written

An argument is written with string literals and with characters outside of them, among which the
parentheses balance and no comma stands alone. What is joined from such arguments is split into them
again. There is nothing to split only if the parenthesis of the list is never closed.
-/

namespace SeriesCatalog.ClickHouse.TableEngine

open Text

/-- A string literal, or one character outside of all literals. -/
inductive Token where
  | literal (l : Literal)
  | char (c : Char) (noQuote : c ≠ '\'')

namespace Token

def text : Token → List Char
  | literal l => l.text
  | char c _ => [c]

/-- What the token adds to the number of open parentheses. -/
def rise : Token → Int
  | literal _ => 0
  | char c _ => if c = '(' then 1 else if c = ')' then -1 else 0

theorem rise_closing (noQuote : ')' ≠ '\'') : (char ')' noQuote).rise = -1 := by
  simp [rise]

def IsComma (token : Token) : Prop :=
  token.text = [',']

end Token

/-- What a text is written with. -/
abbrev Tokens := List Token

namespace Tokens

def text (t : Tokens) : List Char :=
  t.flatMap Token.text

def rise : Tokens → Int
  | [] => 0
  | token :: t => token.rise + rise t

/-- With so many parentheses open before, there are never more closed than opened. -/
def Stays (depth : Int) (t : Tokens) : Prop :=
  ∀ initial, initial <+: t → 0 ≤ depth + rise initial

/-- With so many parentheses open before, each comma stands inside of parentheses. -/
def Nested (depth : Int) (t : Tokens) : Prop :=
  ∀ before comma after, t = before ++ comma :: after → comma.IsComma → 0 < depth + rise before

variable {token : Token} {t : Tokens} {depth : Int}

@[simp] theorem text_cons (token : Token) (t : Tokens) :
    text (token :: t) = token.text ++ t.text :=
  List.flatMap_cons

@[simp] theorem rise_cons (token : Token) (t : Tokens) : rise (token :: t) = token.rise + t.rise :=
  rfl

theorem stays_nil (nonneg : 0 ≤ depth) : Stays depth [] := by
  intro initial isInitial
  rw [List.prefix_nil.1 isInitial]
  simpa [rise] using nonneg

theorem Stays.nonneg (stays : Stays depth t) : 0 ≤ depth := by
  simpa [rise] using stays [] List.nil_prefix

theorem stays_cons : Stays depth (token :: t) ↔ 0 ≤ depth ∧ Stays (depth + token.rise) t := by
  constructor
  · intro stays
    constructor
    · exact stays.nonneg
    · intro initial isInitial
      have later := stays (token :: initial) ((List.prefix_cons_inj token).2 isInitial)
      rw [rise_cons] at later
      omega
  · rintro ⟨nonneg, stays⟩ initial isInitial
    cases initial with
    | nil => simpa [rise] using nonneg
    | cons first initial =>
      obtain ⟨rfl, isInitial'⟩ := List.cons_prefix_cons.1 isInitial
      have later := stays initial isInitial'
      rw [rise_cons]
      omega

theorem nested_nil : Nested depth [] := by
  intro before comma after same
  simp at same

theorem nested_cons :
    Nested depth (token :: t) ↔ (token.IsComma → 0 < depth) ∧ Nested (depth + token.rise) t := by
  constructor
  · intro nested
    constructor
    · simpa [rise] using nested [] token t rfl
    · intro before comma after same isComma
      have later := nested (token :: before) comma after (by rw [same, List.cons_append]) isComma
      rw [rise_cons] at later
      omega
  · rintro ⟨first, nested⟩ before comma after same isComma
    cases before with
    | nil =>
      obtain ⟨rfl, -⟩ := List.cons.inj same
      simpa [rise] using first isComma
    | cons other before =>
      obtain ⟨rfl, same'⟩ := List.cons.inj same
      have later := nested before comma after same' isComma
      rw [rise_cons]
      omega

end Tokens

/-- The scanner gets over the text from one depth to another, and what it finds there comes before
what it finds in the rest. -/
def Reaches (d e : Nat) (text : List Char) (put : List (List Char) → List (List Char)) : Prop :=
  ∀ rest, splitParts d false (text ++ rest) = (splitParts e false rest).map put

/-- Only a comma outside of parentheses ends a part. -/
theorem Token.reaches {d : Nat} {token : Token} (stays : 0 ≤ (d : Int) + token.rise) :
    ∃ (e : Nat) (put : _), (e : Int) = d + token.rise ∧ Reaches d e token.text put ∧
      ((token.IsComma → 0 < d) → put = extend token.text) := by
  cases token with
  | literal l => exact ⟨d, _, by simp [rise], l.carries d, fun _ => rfl⟩
  | char c noQuote =>
    by_cases opening : c = '('
    · subst opening
      exact ⟨d + 1, _, by simp [rise], Carries.opening d, fun _ => rfl⟩
    by_cases closing : c = ')'
    · subst closing
      cases d with
      | zero => simp [rise] at stays
      | succ d => exact ⟨d, _, by rw [rise_closing]; omega, Carries.closing d, fun _ => rfl⟩
    have flat : (d : Int) = d + (char c noQuote).rise := by simp [rise, opening, closing]
    by_cases comma : c = ','
    · subst comma
      cases d with
      | zero =>
        refine ⟨0, ([] :: ·), flat, ?_, fun nested => absurd (nested rfl) (Nat.lt_irrefl 0)⟩
        intro rest
        simp [text, splitParts]
      | succ d => exact ⟨d + 1, _, flat, Carries.nestedComma d, fun _ => rfl⟩
    · have plain : Plain c := by simp [Plain, noQuote, opening, closing, comma]
      exact ⟨d, _, flat, splitParts_plain plain, fun _ => rfl⟩

theorem Tokens.reaches {d : Nat} {t : Tokens} (stays : t.Stays d) :
    ∃ (e : Nat) (put : _), (e : Int) = d + t.rise ∧ Reaches d e t.text put ∧
      (t.Nested d → put = extend t.text) := by
  induction t generalizing d with
  | nil => exact ⟨d, extend [], by simp [rise], Carries.nil (p := ⟨d, false⟩), fun _ => rfl⟩
  | cons token t ih =>
    obtain ⟨-, later⟩ := stays_cons.1 stays
    obtain ⟨m, first, risen, reached, whole⟩ := Token.reaches later.nonneg
    rw [← risen] at later
    obtain ⟨e, rest, risen', reached', whole'⟩ := ih later
    refine ⟨e, first ∘ rest, ?_, ?_, ?_⟩
    · rw [risen', risen, rise_cons, Int.add_assoc]
    · intro others
      rw [text_cons, List.append_assoc, reached, reached', Option.map_map]
    · intro nested
      obtain ⟨first', nested'⟩ := nested_cons.1 nested
      rw [← risen] at nested'
      rw [whole fun isComma => by simpa using first' isComma, whole' nested', text_cons]
      funext parts
      exact (extend_append _ _ parts).symm

/-- The parentheses balance: never are there more closed than opened, and in the end as many. -/
structure Tokens.Balanced (t : Tokens) : Prop where
  stays : t.Stays 0
  closed : t.rise = 0

/-- The text goes on to a parenthesis outside of literals that closes the list. -/
def Closes (depth : Nat) (text : List Char) : Prop :=
  ∃ (t : Tokens) (rest : List Char), text = t.text ++ ')' :: rest ∧ t.Stays depth ∧
    depth + t.rise = 0

/-- As the text goes on inside of a literal, the literal is closed and then the list. -/
def ClosesQuoted (depth : Nat) (text : List Char) : Prop :=
  ∃ (l : Literal) (rest : List Char), text = l.flatMap LiteralUnit.text ++ '\'' :: rest ∧
    Closes depth rest

namespace Closes

variable {d e : Nat} {text : List Char}

theorem cons {token : Token} (closes : Closes e text) (risen : (e : Int) = d + token.rise) :
    Closes d (token.text ++ text) := by
  obtain ⟨t, rest, rfl, stays, closed⟩ := closes
  refine ⟨token :: t, rest, by simp, ?_, ?_⟩
  · apply Tokens.stays_cons.2
    rw [← risen]
    exact ⟨Int.natCast_nonneg d, stays⟩
  · rw [Tokens.rise_cons, ← Int.add_assoc, ← risen, closed]

theorem char {c : Char} (closes : Closes e text) (noQuote : c ≠ '\'')
    (risen : (e : Int) = d + (Token.char c noQuote).rise) : Closes d (c :: text) :=
  closes.cons risen

theorem quoted (closes : ClosesQuoted d text) : Closes d ('\'' :: text) := by
  obtain ⟨l, rest, rfl, closes⟩ := closes
  have whole : Closes d ((Token.literal l).text ++ rest) := closes.cons (by simp [Token.rise])
  simpa [Token.text, Literal.text] using whole

theorem unit {u : LiteralUnit} (closes : ClosesQuoted d text) :
    ClosesQuoted d (u.text ++ text) := by
  obtain ⟨l, rest, rfl, closes⟩ := closes
  exact ⟨u :: l, rest, by simp, closes⟩

end Closes

/-- What parts of a text are found for: a list that is closed, from inside of a literal or not. -/
def Ends (depth : Nat) : Bool → List Char → Prop
  | true => ClosesQuoted depth
  | false => Closes depth

theorem ends_of_splitParts {d : Nat} {quoted : Bool} {text : List Char}
    (found : (splitParts d quoted text).isSome = true) : Ends d quoted text := by
  -- Each case puts the characters it reads before what the rest is known to be.
  fun_induction splitParts d quoted text with
  | case1 => cases found
  | case2 => cases found
  | case3 d c rest ih =>
    have ends := ih (by simpa using found)
    exact Closes.unit (u := .escaped c) ends
  | case4 d quoted rest outside ih =>
    obtain rfl := eq_false_of_ne_true outside
    have ends := ih (by simpa using found)
    exact Closes.char ends (by decide) (by simp [Token.rise])
  | case5 d quoted rest noEscape ih =>
    have ends := ih (by simpa using found)
    cases quoted with
    | true => exact ⟨[], rest, rfl, ends⟩
    | false => exact Closes.quoted ends
  | case6 d c rest noEscape noQuote ih =>
    have ends := ih (by simpa using found)
    exact Closes.unit (u := .plain c noQuote noEscape) ends
  | case7 d quoted rest outside noEscape noQuote ih =>
    obtain rfl := eq_false_of_ne_true outside
    have ends := ih (by simpa using found)
    exact Closes.char ends noQuote (by simp [Token.rise])
  | case8 quoted rest outside =>
    obtain rfl := eq_false_of_ne_true outside
    exact ⟨[], rest, rfl, Tokens.stays_nil (by simp), by simp [Tokens.rise]⟩
  | case9 quoted rest outside d noEscape noQuote notOpening ih =>
    obtain rfl := eq_false_of_ne_true outside
    have ends := ih (by simpa using found)
    exact Closes.char ends noQuote (by rw [Token.rise_closing]; omega)
  | case10 d quoted c rest noEscape noQuote outside notOpening notClosing comma ih =>
    obtain rfl := eq_false_of_ne_true outside
    have ends := ih (by simpa using found)
    exact Closes.char ends noQuote (by simp [Token.rise, notOpening, notClosing])
  | case11 d quoted c rest noEscape noQuote outside notOpening notClosing noComma ih =>
    obtain rfl := eq_false_of_ne_true outside
    have ends := ih (by simpa using found)
    exact Closes.char ends noQuote (by simp [Token.rise, notOpening, notClosing])

/-- What ends with the parenthesis that closes the list. -/
def IsClosed (closed : List Char) : Prop :=
  ∃ t : Tokens, closed = t.text ++ [')'] ∧ t.Balanced

theorem closes_iff {text : List Char} :
    Closes 0 text ↔ ∃ closed, closed <+: text ∧ IsClosed closed := by
  constructor
  · rintro ⟨t, rest, rfl, stays, ends⟩
    refine ⟨t.text ++ [')'], ⟨rest, by simp⟩, t, rfl, stays, ?_⟩
    simpa using ends
  · rintro ⟨closed, ⟨rest, rfl⟩, t, rfl, balanced⟩
    refine ⟨t, rest, by simp, balanced.stays, ?_⟩
    simpa using balanced.closed

/-- The scanner comes to the parenthesis that closes the list and gives the parts before it. -/
theorem splitParts_of_closes {text : List Char} (closes : Closes 0 text) :
    (splitParts 0 false text).isSome = true := by
  obtain ⟨t, rest, rfl, stays, ends⟩ := closes
  obtain ⟨e, put, risen, reached, -⟩ := Tokens.reaches stays
  have outside : e = 0 := by omega
  subst outside
  rw [reached, Option.isSome_map]
  simp [splitParts]

theorem splitArguments_eq_none_iff {text : List Char} :
    splitArguments text = none ↔ ¬ ∃ closed, closed <+: text ∧ IsClosed closed := by
  rw [← closes_iff, splitArguments, Option.map_eq_none_iff, ← Option.not_isSome_iff_eq_none]
  constructor
  · intro none closes
    exact none (splitParts_of_closes closes)
  · intro unclosed found
    exact unclosed (ends_of_splitParts found)

/-- An argument as it may be written: its literals are closed and its parentheses balance, both of
which hide commas. -/
structure WellFormed (argument : List Char) : Prop where
  nonempty : argument ≠ []
  trimmed : IsTrimmed argument
  written : ∃ t : Tokens, t.text = argument ∧ t.Balanced ∧ t.Nested 0

theorem WellFormed.isArgument {argument : List Char} (w : WellFormed argument) :
    IsArgument argument := by
  obtain ⟨nonempty, trimmed, t, rfl, balanced, nested⟩ := w
  obtain ⟨e, put, risen, reached, whole⟩ := Tokens.reaches (d := 0) balanced.stays
  have outside : e = 0 := by
    have closed := balanced.closed
    omega
  subst outside
  rw [whole nested] at reached
  exact ⟨reached, trimmed, nonempty⟩

/-- Well-formed arguments that are joined by commas are found again, whatever blanks surround them
and whatever follows. There are no arguments only where the list is never closed. -/
theorem splitArguments_inverts_joining :
    (∀ (spaced : List Spaced) (suffix : List Char), (∀ s ∈ spaced, WellFormed s.argument) →
        splitArguments ([','].intercalate (spaced.map Spaced.text) ++ ')' :: suffix) =
          some (spaced.map Spaced.argument)) ∧
      ∀ text, splitArguments text = none ↔ ¬ ∃ closed, closed <+: text ∧ IsClosed closed := by
  constructor
  · intro spaced suffix wellFormed
    apply splitArguments_spaced
    intro s member
    exact (wellFormed s member).isArgument
  · intro text
    exact splitArguments_eq_none_iff

theorem path_wellFormed : WellFormed "'/\\',('".toList where
  nonempty := by decide
  trimmed := by decide
  written := by
    refine ⟨[.literal [.plain '/' (by decide) (by decide), .escaped '\'',
      .plain ',' (by decide) (by decide), .plain '(' (by decide) (by decide)]], rfl, ⟨?_, rfl⟩, ?_⟩
    · simp [Tokens.stays_cons, Token.rise, Tokens.stays_nil]
    · simp [Tokens.nested_cons, Tokens.nested_nil, Token.IsComma, Token.text, Literal.text]

theorem call_wellFormed : WellFormed "é((),')')".toList where
  nonempty := by decide
  trimmed := by decide
  written := by
    refine ⟨[.char 'é' (by decide), .char '(' (by decide), .char '(' (by decide),
      .char ')' (by decide), .char ',' (by decide), .literal [.plain ')' (by decide) (by decide)],
      .char ')' (by decide)], rfl, ⟨?_, rfl⟩, ?_⟩
    · simp [Tokens.stays_cons, Token.rise, Tokens.stays_nil]
    · simp [Tokens.nested_cons, Tokens.nested_nil, Token.IsComma, Token.text, Token.rise,
        Literal.text]

theorem calls_split :
    (WellFormed "'/\\',('".toList ∧ WellFormed "é((),')')".toList) ∧
      splitArguments " '/\\',(' ,\té((),')')\n) ORDER BY ')'".toList =
        some ["'/\\',('".toList, "é((),')')".toList] ∧
      splitArguments "f(), 'x)".toList = none ∧
      ¬ ∃ closed, closed <+: "f(), 'x)".toList ∧ IsClosed closed := by
  have blank : Blanks ['\t'] := by decide
  have lines : Blanks ['\n'] := by decide
  have wellFormed : ∀ s ∈ [Spaced.mk [' '] "'/\\',('".toList [' '] Blanks.space Blanks.space,
      Spaced.mk ['\t'] "é((),')')".toList ['\n'] blank lines], WellFormed s.argument := by
    rw [List.forall_mem_cons, List.forall_mem_singleton]
    exact ⟨path_wellFormed, call_wellFormed⟩
  have found := splitArguments_inverts_joining.1 _ " ORDER BY ')'".toList wellFormed
  have none : splitArguments "f(), 'x)".toList = none := by decide
  exact ⟨⟨path_wellFormed, call_wellFormed⟩, found, none,
    (splitArguments_inverts_joining.2 _).1 none⟩

end SeriesCatalog.ClickHouse.TableEngine
