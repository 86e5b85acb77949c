import SchemaDecl.Http.Domain
import SchemaDecl.Number.Numeral

/-! Hosts: addresses of four numbers, addresses between brackets, and names. Characters of a name that
have no place in it are written as bytes after a percent sign, and names in other scripts in ASCII. -/

namespace SchemaDecl

/-- Why a text is no address of a page or of a host. -/
inductive UrlError where
  | tooLong
  | componentTooLong (component : String)
  | control (c : Char) (place : Nat)
  | controlIn (component : String) (c : Char) (place : Nat)
  | fourNumbers (host : String)
  | bracketed (host : String)
  | domain (host : String)
  | port (text : String)
  | pathBesideAuthority
  | doubleSlash
  | colon
  deriving DecidableEq, Inhabited, Repr

def UrlError.message : UrlError → String
  | .tooLong => "URL too long"
  | .componentTooLong k => "URL component '" ++ k ++ "' too long"
  | .control c i =>
    "Invalid non-printable ASCII character in URL, " ++ Text.shown (String.singleton c) ++
      " at position " ++ toString i ++ "."
  | .controlIn k c i =>
    "Invalid non-printable ASCII character in URL " ++ k ++ " component, " ++
      Text.shown (String.singleton c) ++ " at position " ++ toString i ++ "."
  | .fourNumbers h => "Invalid IPv4 address: " ++ Text.shown h
  | .bracketed h => "Invalid IPv6 address: " ++ Text.shown h
  | .domain h => "Invalid IDNA hostname: " ++ Text.shown h
  | .port t => "Invalid port: " ++ Text.shown t
  | .pathBesideAuthority => "For absolute URLs, path must be empty or begin with '/'"
  | .doubleSlash => "Relative URLs cannot have a path starting with '//'"
  | .colon => "Relative URLs cannot have a path starting with ':'"

/-! ### Characters after a percent sign -/

namespace Percent

def upperHexDigit (n : Nat) : Char :=
  if n < 10 then Char.ofNat (48 + n) else Char.ofNat (55 + n)

def byte (b : UInt8) : List Char :=
  ['%', upperHexDigit (b.toNat / 16), upperHexDigit (b.toNat % 16)]

/-- Writes the characters without a place as bytes. -/
def escape (isSafe : Char → Bool) (s : String) : String :=
  String.ofList (s.toList.flatMap fun c =>
    if isSafe c then [c] else (Text.encodeChar c).flatMap byte)

/-- The bytes of a text in which some may be written after a percent sign. -/
def bytes : List Char → List UInt8
  | '%' :: a :: b :: s =>
    match Numeral.digit? 16 a, Numeral.digit? 16 b with
    | some x, some y => UInt8.ofNat (16 * x + y) :: bytes s
    | _, _ => 37 :: bytes (a :: b :: s)
  | c :: s => Text.encodeChar c ++ bytes s
  | [] => []

/-- The text that is meant, with a replacement for bytes that spell no character. -/
def unescape (s : String) : String :=
  Text.decodeLossy (bytes s.toList)

end Percent

namespace Host

/-! ### Addresses of numbers -/

/-- Whether a text is made of so many groups of digits, each parted from the next one by any
character. -/
def isGrouped : Nat → Bool → List Char → Bool
  | groups, read, [] => groups == 0 && read
  | groups, read, c :: s =>
    (c.isDigit && isGrouped groups true s) ||
      (read && match groups with
        | 0 => false
        | g + 1 => isGrouped g false s)

/-- Whether a host looks like four numbers. -/
def looksNumeric (s : List Char) : Bool :=
  isGrouped 3 false s

/-- A number below 256 without zeros in front. -/
def isOctet (s : List Char) : Bool :=
  !s.isEmpty && s.length ≤ 3 && s.all Char.isDigit && (s == ['0'] || s.head? != some '0') &&
    Numeral.natOf 10 s < 256

/-- The parts of a text between the marks. -/
def split (mark : Char) : List Char → List (List Char)
  | [] => [[]]
  | c :: s =>
    if c == mark then [] :: split mark s
    else
      match split mark s with
      | p :: ps => (c :: p) :: ps
      | [] => [[c]]

/-- Whether a text is an address of four numbers. -/
def isFourNumbers (s : List Char) : Bool :=
  let parts := split '.' s
  parts.length == 4 && parts.all isOctet

/-- Up to four digits of base 16. -/
def isHextet (s : List Char) : Bool :=
  !s.isEmpty && s.length ≤ 4 && s.all fun c => (Numeral.digit? 16 c).isSome

/-- Whether parts between colons make an address: eight of them, or fewer where two colons in a row stand
for the rest. -/
def areHextets (parts : List (List Char)) : Bool :=
  let inner := (parts.drop 1).dropLast
  if parts.length < 3 || 9 < parts.length then false
  else
    match inner.findIdx? List.isEmpty with
    | none => parts.length == 8 && parts.all isHextet
    | some i =>
      let before := parts.take (i + 1)
      let after := parts.drop (i + 2)
      let before := if before == [[]] then [] else before
      let after := if after == [[]] then [] else after
      before.length + after.length < 8 && before.all isHextet && after.all isHextet

/-- Whether a text is an address of eight parts, the last two of which may be four numbers; behind a
percent sign a zone may be named. -/
def isEightParts (s : List Char) : Bool :=
  let address := s.takeWhile (· != '%')
  let zone := s.drop address.length
  let parts := split ':' address
  let last := parts.getLast?.getD []
  !(s.contains '/') && (zone.isEmpty || (zone.length != 1 && !(zone.drop 1).contains '%')) &&
    (if last.contains '.' then
      isFourNumbers last && 3 ≤ parts.length && areHextets (parts.dropLast ++ [['0'], ['0']])
    else areHextets parts)

/-! ### Hosts in normal form -/

/-- Characters of a name: letters and digits, marks that may stand anywhere in an address, and some that
are let through. -/
def isNameChar (c : Char) : Bool :=
  c.isAlphanum || "-._~!$&'()*+,;=\"\x60\x7b\x7d%|\\".toList.contains c

/-- The host in normal form. Brackets are left off. -/
def normal (host : String) : Except UrlError String :=
  let s := host.toList
  if s.isEmpty then .ok ""
  else if looksNumeric s then
    if isFourNumbers s then .ok host else .error (.fourNumbers host)
  else if s.head? == some '[' && s.length != 1 && s.getLast? == some ']' then
    let inner := (s.drop 1).dropLast
    if isEightParts inner then .ok (String.ofList inner) else .error (.bracketed host)
  else if s.all fun c => c.toNat < 128 then .ok (Percent.escape isNameChar host.toLower)
  else (Domain.toAscii (String.ofList (Text.toSmall s))).mapError fun _ => .domain host

end Host

end SchemaDecl
