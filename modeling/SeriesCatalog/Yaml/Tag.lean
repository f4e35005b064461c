import SeriesCatalog.Yaml.Scalar

/-! # Tags and directives of YAML texts

A tag is written in full between angle brackets, or as a handle and the rest. Directives before a
document name the version of YAML and what handles stand for.
-/

namespace SeriesCatalog.Yaml

/-- A tag, by its octets. They need not be the UTF-8 text of anything. -/
structure Tag where
  octets : List UInt8
  deriving Repr, DecidableEq

namespace Tag

def ofText (text : String) : Tag := ⟨text.toUTF8.toList⟩

def common (name : String) : Tag := ofText ("tag:yaml.org,2002:" ++ name)

/-- The tag that starts with the octets of another one. A null octet ends either of them. -/
def after (lead t : Tag) : Tag :=
  ⟨lead.octets.takeWhile (· != 0) ++ t.octets.takeWhile (· != 0)⟩

def isLocal (t : Tag) : Bool :=
  t.octets.head? == some 33

/-- The name that a local tag stands for: what follows the mark, or the mark if nothing follows. -/
def name? (t : Tag) : Option String :=
  match t.octets with
  | mark :: rest =>
    if mark = 33 then String.fromUTF8? ⟨(if rest.isEmpty then [mark] else rest).toArray⟩ else none
  | [] => none

end Tag

/-- A tag as it is written. -/
structure WrittenTag where
  /-- The handle, with its exclamation marks; empty for a tag in full. -/
  handle : String
  suffix : Tag
  deriving Repr, DecidableEq

/-- A character of a tag; commas and square brackets only in full tags. -/
def isTagChar (full : Bool) (c : Char) : Bool :=
  isNameChar c || ";/?:@&=+$.%!~*'()".toList.contains c || (full && ",[]".toList.contains c)

/-- The octet of a percent escape at the start of a text. -/
def percentOctet? : List Char → Option (Nat × List Char)
  | '%' :: a :: b :: rest => do
    let high ← Text.hexValue? a
    let low ← Text.hexValue? b
    some (16 * high + low, rest)
  | _ => none

/-- Reads as many continuation octets as a character needs. -/
def continuation? : (count : Nat) → List Char → Option (List UInt8 × List Char)
  | 0, text => some ([], text)
  | count + 1, text => do
    let (octet, rest) ← percentOctet? text
    if octet / 64 = 2 then
      let (octets, rest) ← continuation? count rest
      some (octet.toUInt8 :: octets, rest)
    else none

/-- Reads the octets of a character from percent escapes; the first one says how many there are. -/
def percentOctets? (text : List Char) : Option (List UInt8 × List Char) := do
  let (octet, rest) ← percentOctet? text
  let count ←
    if octet < 0x80 then some 0
    else if octet / 32 = 6 then some 1
    else if octet / 16 = 14 then some 2
    else if octet / 8 = 30 then some 3
    else none
  let (octets, rest) ← continuation? count rest
  some (octet.toUInt8 :: octets, rest)

/-- Reads the octets of a tag. There are at most `fuel` characters. -/
def tagOctets? (full : Bool) (text : List Char) :
    (fuel : Nat) → Option (List UInt8 × List Char)
  | 0 => some ([], text)
  | fuel + 1 =>
    match text with
    | c :: rest =>
      if !isTagChar full c then some ([], c :: rest)
      else do
        let (octets, rest) ←
          if c = '%' then percentOctets? (c :: rest) else some ([c.toNat.toUInt8], rest)
        let (others, rest) ← tagOctets? full rest fuel
        some (octets ++ others, rest)
    | [] => some ([], [])

def tagText? (full : Bool) (text : List Char) : Option (Tag × List Char) := do
  let (octets, rest) ← tagOctets? full text text.length
  if octets.isEmpty then none else some (⟨octets⟩, rest)

/-- Reads a tag, from the place after its exclamation mark. -/
def scanTag? (inFlow : Bool) (text : List Char) : Option (WrittenTag × List Char) := do
  let (tag, rest) ← match text with
    | '<' :: full => do
      let (tag, rest) ← tagText? true full
      let rest ← Text.oneChar? '>' rest
      some (⟨"", tag⟩, rest)
    | _ =>
      let name := text.takeWhile isNameChar
      match text.dropWhile isNameChar with
      | '!' :: rest => do
        let (tag, rest) ← tagText? false rest
        some (⟨String.ofList ('!' :: name ++ ['!']), tag⟩, rest)
      | rest => do
        let (octets, rest) ← tagOctets? false rest rest.length
        let suffix := name.map (·.toNat.toUInt8) ++ octets
        if suffix.isEmpty then some (⟨"", Tag.ofText "!"⟩, rest)
        else some (⟨"!", ⟨suffix⟩⟩, rest)
  if startsWithGap rest || (inFlow && rest.head? == some ',') then some (tag, rest) else none

/-- A directive before a document. -/
inductive Directive where
  | version (major minor : Nat)
  | handle (name : String) (lead : Tag)
  deriving Repr, DecidableEq

def versionNumber? (text : List Char) : Option (Nat × List Char) :=
  let digits := text.takeWhile Text.isDigit
  if digits.isEmpty || 9 < digits.length then none
  else some (Text.digitsValue digits, text.dropWhile Text.isDigit)

/-- Reads a directive, from the place after its percent sign up to the end of its line. -/
def scanDirective? (text : List Char) : Option (Directive × List Char) := do
  let name := text.takeWhile isNameChar
  let rest := text.dropWhile isNameChar
  if !startsWithGap rest then none
  let rest := rest.dropWhile isGap
  let (directive, rest) ←
    if name = "YAML".toList then do
      let (major, rest) ← versionNumber? rest
      let rest ← Text.oneChar? '.' rest
      let (minor, rest) ← versionNumber? rest
      some (Directive.version major minor, rest)
    else if name = "TAG".toList then do
      let rest ← Text.oneChar? '!' rest
      let handle := rest.takeWhile isNameChar
      let (handle, rest) ← match rest.dropWhile isNameChar with
        | '!' :: rest => some ('!' :: handle ++ ['!'], rest)
        | rest => if handle.isEmpty then some (['!'], rest) else none
      if !(rest.head?.any isGap) then none
      let (lead, rest) ← tagText? true (rest.dropWhile isGap)
      if !startsWithGap rest then none
      some (Directive.handle (String.ofList handle) lead, rest)
    else none
  let rest := rest.dropWhile isGap
  match rest with
  | [] => some (directive, [])
  | c :: after =>
    if c = '#' then some (directive, after.dropWhile (!isBreak ·))
    else if isBreak c then some (directive, rest)
    else none

end SeriesCatalog.Yaml
