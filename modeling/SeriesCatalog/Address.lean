import SeriesCatalog.Address.Numeric
import SeriesCatalog.Domain

/-! # Addresses of servers

An address names a scheme, a host and perhaps a port, with the name of a user before the host and a
path after it. What is wrong with it is known before a connection is tried.
-/

namespace SeriesCatalog

open Text

/-- Why an address leads to no server. -/
inductive AddressFault where
  | noScheme
  | noHost
  | badDomain
  | badHostChar
  /-- The host ends with a number, but is no address of 32 bits. -/
  | badDotted
  /-- The host is in brackets, but is no address of 128 bits. -/
  | badGroups
  | badPort
  | longScheme
  /-- There is a character that a request line does not have. -/
  | badChar
  /-- What stands for the host does not have the form of one. -/
  | badAuthority
  | noAuthority
  deriving DecidableEq, Repr

def AddressFault.message : AddressFault → String
  | noScheme => "relative URL without a base"
  | noHost => "empty host"
  | badDomain => "invalid international domain name"
  | badHostChar => "invalid domain character"
  | badDotted => "invalid IPv4 address"
  | badGroups => "invalid IPv6 address"
  | badPort => "invalid port number"
  | longScheme => "scheme too long"
  | badChar => "invalid uri character"
  | badAuthority => "invalid authority"
  | noAuthority => "invalid format"

/-- The host of an address. -/
inductive Host where
  | domain (name : List Char)
  | dotted (value : Nat)
  | grouped (text : List Char)
  /-- A name of a scheme that does not know domain names. -/
  | verbatim (name : List Char)
  deriving DecidableEq, Repr

/-- An address that leads to a server. -/
structure Address where
  scheme : String
  host : Host
  deriving DecidableEq, Repr

namespace Address

/-- The schemes whose hosts are domain names, and which are never without a host. -/
def hostSchemes : List String := ["http", "https", "ws", "wss", "ftp"]

/-- The parts of an address before and after the colon that ends its scheme. -/
def splitScheme? (address : List Char) : Option (String × List Char) :=
  match splitFirst? ':' address with
  | some (c :: scheme, rest) =>
    if c.isAlpha && scheme.all fun c => c.isAlphanum || c == '+' || c == '-' || c == '.' then
      some (String.ofList ((c :: scheme).map Char.toLower), rest)
    else none
  | _ => none

/-- The address without line ends and tabs, and without controls and spaces at its ends. -/
def clean (address : String) : List Char :=
  let isSpace (c : Char) : Bool := c.toNat ≤ 0x20
  let text := (address.toList.dropWhile isSpace).reverse.dropWhile isSpace |>.reverse
  text.filter fun c => c != '\t' && c != '\n' && c != '\r'

/-- The octets of a text, with those that are written as a percent sign and two hexadecimal
digits. -/
def percentOctets : List Char → List UInt8
  | '%' :: a :: b :: rest =>
    match hexValue? a, hexValue? b with
    | some high, some low => (16 * high + low).toUInt8 :: percentOctets rest
    | _, _ => 37 :: percentOctets (a :: b :: rest)
  | c :: rest => (String.singleton c).toUTF8.toList ++ percentOctets rest
  | [] => []

/-- The address of 128 bits that a text in brackets stands for. -/
def groupedHost (text : List Char) : Except AddressFault Host :=
  let inside := (text.drop 1).dropLast
  if text.getLast? = some ']' && isGrouped inside then .ok (.grouped inside) else .error .badGroups

/-- The host of a scheme that knows domain names. -/
def domainHost (text : List Char) : Except AddressFault Host :=
  if text.head? = some '[' then groupedHost text
  else do
    let some decoded := String.fromUTF8? ⟨(percentOctets text).toArray⟩ | .error .badDomain
    let some labels := Domain.labels? decoded.toList | .error .badDomain
    let name := ['.'].intercalate labels
    if name.isEmpty then .error .noHost
    else if endsInNumber name then
      match ofDotted? name with
      | some value => .ok (.dotted value)
      | none => .error .badDotted
    else .ok (.domain name)

/-- The host of a scheme that does not know domain names. -/
def verbatimHost (text : List Char) : Except AddressFault Host :=
  if text.head? = some '[' then groupedHost text
  else if text.any fun c => "\x00\t\n\r #/:<>?@[\\]^|".toList.contains c then .error .badHostChar
  else .ok (.verbatim text)

/-- What was seen of the part of a request line that names the server. -/
structure Scan where
  /-- The number of colons since the last bracket or at sign. -/
  colons : Nat
  isOpened : Bool
  isClosed : Bool
  /-- There was a percent sign since the last bracket or at sign. -/
  hasPercent : Bool
  endsAt : Bool
  deriving DecidableEq, Repr

namespace Scan

def start : Scan := ⟨0, false, false, false, false⟩

/-- Goes on with a character; what a request line cannot have is written with percent signs. -/
def next (s : Scan) (c : Char) : Except AddressFault Scan :=
  if c = ':' then
    if s.colons < 8 then .ok { s with colons := s.colons + 1, endsAt := false }
    else .error .badAuthority
  else if c = '[' then
    if s.hasPercent || s.isOpened then .error .badAuthority
    else .ok { s with isOpened := true, endsAt := false }
  else if c = ']' then
    if !s.isOpened || s.isClosed then .error .badAuthority
    else .ok ⟨0, s.isOpened, true, false, false⟩
  else if c = '@' then .ok ⟨0, s.isOpened, s.isClosed, false, true⟩
  else if c = '%' || c.toNat < 0x20 || 0x7F ≤ c.toNat then
    .ok { s with hasPercent := true, endsAt := false }
  else if c.isAlphanum || "!$&'()*+,-.;=_~".toList.contains c then .ok { s with endsAt := false }
  else .error .badChar

def fault? (s : Scan) : Option AddressFault :=
  if s.isOpened != s.isClosed || 1 < s.colons || s.endsAt || s.hasPercent then some .badAuthority
  else none

end Scan

/-- What a request line cannot have in the part that names the server, which ends before the
path. -/
def authorityFault? (text : List Char) : Option AddressFault :=
  match (text.takeWhile fun c => c != '/' && c != '?' && c != '#').foldlM Scan.next Scan.start with
  | .ok scan => scan.fault?
  | .error fault => some fault

/-- What keeps a request from naming a host. The characters of a domain name beyond ASCII are
written in ASCII there. -/
def hostFault? : Host → Option AddressFault
  | .domain name => authorityFault? (name.filter fun c => c.toNat < 0x80)
  | .verbatim name => if name.isEmpty then some .noAuthority else authorityFault? name
  | .dotted _ | .grouped _ => none

/-- The address of a scheme and a host, if a request can name them. -/
def ofHost (scheme : String) (host : Host) : Except AddressFault Address :=
  if 64 < scheme.length then .error .longScheme
  else
    match hostFault? host with
    | some fault => .error fault
    | none => .ok ⟨scheme, host⟩

/-- The text of the host: up to the colon before a port, which is not in brackets. -/
def hostText (inBrackets : Bool) : List Char → List Char
  | [] => []
  | c :: rest =>
    if c = ':' ∧ !inBrackets then []
    else c :: hostText (c = '[' || (inBrackets && c != ']')) rest

def isBadPort (text : List Char) : Bool :=
  let digits := text.takeWhile (· != '\\')
  !digits.all isDigit || 65535 < digitsValue digits

/-- Reads an address from the place after the two slashes of its scheme. -/
def parseAuthority (scheme : String) (hasDomain : Bool) (text : List Char) :
    Except AddressFault Address := do
  let isEnd (c : Char) : Bool := c == '/' || c == '?' || c == '#' || (hasDomain && c == '\\')
  let authority := text.takeWhile fun c => !isEnd c
  let place := (authority.reverse.takeWhile (· != '@')).reverse
  let user := authority.take (authority.length - place.length - 1)
  let hasUser := !user.isEmpty && user != [':']
  let name := hostText false place
  let port := place.drop name.length
  if authority == ['@'] && (text.drop 1).head?.isSome then .error .noHost
  if name.isEmpty && hasDomain then .error .noHost
  let host ← if hasDomain then domainHost name else verbatimHost name
  if name.isEmpty && !port.isEmpty then .error .noHost
  if isBadPort (port.drop 1) then .error .badPort
  if name.isEmpty && hasUser then .error .noHost
  ofHost scheme host

/-- A letter and a colon or a bar, which name a drive. -/
def isDrive : List Char → Bool
  | [c, d] => c.isAlpha && (d == ':' || d == '|')
  | _ => false

/-- Reads an address of the scheme `file`. There is a host only between two slashes and the path,
and the machine itself and a drive count as none. -/
def parseFile (text : List Char) : Except AddressFault Address := do
  let isSlash (c : Char) : Bool := c == '/' || c == '\\'
  let isEnd (c : Char) : Bool := isSlash c || c == '?' || c == '#'
  let rest := if (text.take 2).all isSlash then text.drop 2 else []
  let name := rest.takeWhile fun c => !isEnd c
  let segment := (rest.drop (name.length + 1)).takeWhile fun c => !isEnd c
  if name.isEmpty || isDrive name then .error .noAuthority
  let host ← domainHost name
  if host = .domain "localhost".toList || isDrive segment then .error .noAuthority
  ofHost "file" host

def parse (text : String) : Except AddressFault Address :=
  match splitScheme? (clean text) with
  | none => .error .noScheme
  | some (scheme, rest) =>
    if hostSchemes.contains scheme then
      parseAuthority scheme true (rest.dropWhile fun c => c == '/' || c == '\\')
    else if scheme = "file" then parseFile rest
    else
      match dropLead? ['/', '/'] rest with
      | some rest => parseAuthority scheme false rest
      | none => .error ((authorityFault? (scheme.toList ++ ':' :: rest)).getD .noAuthority)

end Address

end SeriesCatalog
