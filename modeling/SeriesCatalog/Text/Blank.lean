/-! # Blank characters and trimming

The white space of Unicode, and texts without it at their ends.
-/

namespace SeriesCatalog.Text

/-- A character with the Unicode property `White_Space`. -/
def isBlank (c : Char) : Bool :=
  let n := c.toNat
  (9 ≤ n && n ≤ 13) || n == 0x20 || n == 0x85 || n == 0xA0 || n == 0x1680 ||
    (0x2000 ≤ n && n ≤ 0x200A) || n == 0x2028 || n == 0x2029 || n == 0x202F ||
    n == 0x205F || n == 0x3000

def trimStart (text : List Char) : List Char :=
  text.dropWhile isBlank

def trimEnd (text : List Char) : List Char :=
  (text.reverse.dropWhile isBlank).reverse

def trim (text : List Char) : List Char :=
  trimEnd (trimStart text)

def isAllBlank (text : String) : Bool :=
  text.toList.all isBlank

/-- The parts before and after the first occurrence of a character. -/
def splitFirst? (sep : Char) : List Char → Option (List Char × List Char)
  | [] => none
  | c :: rest =>
    if c = sep then some ([], rest)
    else (splitFirst? sep rest).map fun (before, after) => (c :: before, after)

/-- The parts between all occurrences of a character; one more than there are occurrences. -/
def splitAll (sep : Char) : List Char → List (List Char)
  | [] => [[]]
  | c :: rest =>
    if c = sep then [] :: splitAll sep rest
    else
      match splitAll sep rest with
      | part :: parts => (c :: part) :: parts
      | [] => [[c]]

/-- What follows a leading text, if the text is there. -/
def dropLead? : (lead text : List Char) → Option (List Char)
  | [], text => some text
  | _ :: _, [] => none
  | l :: lead, c :: text => if l = c then dropLead? lead text else none

theorem length_dropWhile_le {α : Type} (p : α → Bool) (l : List α) :
    (l.dropWhile p).length ≤ l.length :=
  (List.dropWhile_sublist p).length_le

theorem length_trimStart_le (text : List Char) : (trimStart text).length ≤ text.length :=
  length_dropWhile_le _ _

theorem length_trim_le (text : List Char) : (trim text).length ≤ text.length := by
  have inner := length_trimStart_le text
  have outer := length_dropWhile_le isBlank (trimStart text).reverse
  simp only [List.length_reverse] at outer
  simp only [trim, trimEnd, List.length_reverse]
  omega

theorem length_dropLead {lead text rest : List Char} (h : dropLead? lead text = some rest) :
    rest.length + lead.length = text.length := by
  induction lead generalizing text with
  | nil => simp_all [dropLead?]
  | cons l lead ih =>
    cases text with
    | nil => simp [dropLead?] at h
    | cons c text =>
      simp only [dropLead?] at h
      split at h
      · simp [← ih h]; omega
      · simp at h

theorem length_splitFirst {sep : Char} {text before after : List Char}
    (h : splitFirst? sep text = some (before, after)) : after.length < text.length := by
  induction text generalizing before with
  | nil => simp [splitFirst?] at h
  | cons c text ih =>
    simp only [splitFirst?] at h
    split at h
    · simp_all
    · obtain ⟨⟨first, second⟩, found, same⟩ := Option.map_eq_some_iff.1 h
      simp only [Prod.mk.injEq] at same
      have := ih (same.2 ▸ found)
      simp only [List.length_cons]
      omega

end SeriesCatalog.Text
