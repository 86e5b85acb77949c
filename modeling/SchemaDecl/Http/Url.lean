import SchemaDecl.Http.Host

/-! Addresses: a scheme, an authority, a path, a query and a fragment, of which all but the path may be
absent. An address is kept in normal form: letters of scheme and host are small, the usual port is not
named, a path loses its dot segments, and characters that have no place in a component are written as
bytes after a percent sign. -/

namespace SchemaDecl

structure Url where
  scheme : String := ""
  userinfo : String := ""
  /-- Without the brackets that stand around a host with colons. -/
  host : String := ""
  port : Option Int := none
  path : String := ""
  query : Option String := none
  fragment : Option String := none
  deriving DecidableEq, Inhabited, Repr

namespace Url

/-! ### Characters -/

def isVisible (c : Char) : Bool :=
  '!' ≤ c && c ≤ '~'

def isFragmentChar (c : Char) : Bool :=
  isVisible c && !(['"', '<', '>', '\x60'].contains c)

def isQueryChar (c : Char) : Bool :=
  isVisible c && !(['"', '#', '<', '>'].contains c)

def isPathChar (c : Char) : Bool :=
  isQueryChar c && !(['?', '\x60', '\x7b', '\x7d'].contains c)

def isUserChar (c : Char) : Bool :=
  isPathChar c && !(['/', ';', '=', '@', '[', '\\', ']', '^', '|'].contains c)

def isControl (c : Char) : Bool :=
  c < ' ' || c == '\x7f'

/-! ### Components in normal form -/

/-- Drops the dot segments of a path. `kept` holds the segments before in reverse. -/
def dropDots (kept : List String) : List String → List String
  | [] => kept.reverse
  | "." :: rest => dropDots kept rest
  | ".." :: rest => dropDots (if kept == [""] then kept else kept.drop 1) rest
  | s :: rest => dropDots (s :: kept) rest

def normalPath (path : String) : String :=
  "/".intercalate (dropDots [] (path.splitOn "/"))

def usualPort? (scheme : String) : Option Int :=
  [("http", 80), ("https", 443), ("ftp", 21), ("ws", 80), ("wss", 443)].lookup scheme

/-- The number of a port, unless it is the usual one. -/
def readPort (scheme : String) (s : List Char) : Except UrlError (Option Int) :=
  if s.isEmpty then .ok none
  else
    match Numeral.readInteger 10 s with
    | .ok n => .ok (if usualPort? scheme == some n then none else some n)
    | .error _ => .error (.port (String.ofList s))

/-- Splits at the first character that ends the component before it. -/
def cutAt (c : Char) (s : List Char) : List Char × Option (List Char) :=
  match s.dropWhile (· != c) with
  | [] => (s, none)
  | _ :: rest => (s.takeWhile (· != c), some rest)

/-- The last part of a text behind a character, and what stands before it. -/
def cutAtLast (c : Char) (s : List Char) : Option (List Char) × List Char :=
  match cutAt c s.reverse with
  | (last, some before) => (some before.reverse, last.reverse)
  | (last, none) => (none, last.reverse)

/-- The host of an authority and the text of the port behind it. -/
def takeHost (s : List Char) : List Char × List Char :=
  let (host, r) :=
    match s, cutAtLast ']' s with
    | '[' :: _, (some inner, r) => (inner ++ [']'], r)
    | s, _ => (s.takeWhile (· != ':'), s.dropWhile (· != ':'))
  match r with
  | ':' :: port => (host, port)
  | port => (host, port)

/-! ### Drafts -/

/-- The parts of an address as they are written. A host may be given apart from the authority, and
counts instead of the one there. -/
structure Draft where
  scheme : String
  authority : String
  path : String
  query : Option String
  fragment : Option String
  host : Option String := none

namespace Draft

/-- Whether a path can stand beside the other parts. -/
def checkPath (path : String) (hasScheme hasAuthority : Bool) : Except UrlError Unit := do
  if hasAuthority then
    if path != "" && !path.startsWith "/" then throw .pathBesideAuthority
  else if !hasScheme then
    if path.startsWith "//" then throw .doubleSlash
    if path.startsWith ":" then throw .colon

/-- A host with colons between brackets. -/
def bracketed (host : String) : String :=
  if host.toList.contains ':' && !(host.startsWith "[" && host.endsWith "]") then "[" ++ host ++ "]"
  else host

/-- The address in normal form, if the parts go together. -/
def normal (d : Draft) : Except UrlError Url := do
  let (user, place) := cutAtLast '@' d.authority.toList
  let (host, port) := takeHost place
  let host ← Host.normal ((d.host.map bracketed).getD (String.ofList host))
  let port ← readPort d.scheme port
  let u : Url := {
    scheme := d.scheme.toLower
    userinfo := Percent.escape isUserChar (String.ofList (user.getD []))
    host, port
    query := d.query.map (Percent.escape isQueryChar)
    fragment := d.fragment.map (Percent.escape isFragmentChar) }
  let hasScheme := u.scheme != ""
  let hasAuthority := u.userinfo != "" || u.host != "" || u.port.isSome
  checkPath d.path hasScheme hasAuthority
  let path := if hasScheme || hasAuthority then normalPath d.path else d.path
  return { u with path := Percent.escape isPathChar path }

/-- The greatest number of characters in an address and in a part of one. -/
def lengthLimit : Nat := 65536

/-- Checks a part by itself. -/
def checkPart (name : String) (part : Option String) : Except UrlError Unit := do
  let s := (part.getD "").toList
  if lengthLimit < s.length then throw (.componentTooLong name)
  match s.findIdx? isControl with
  | some i => throw (.controlIn name (s.getD i ' ') i)
  | none => pure ()

/-- The address of parts that are put together anew. -/
def read (d : Draft) : Except UrlError Url := do
  checkPart "scheme" (some d.scheme)
  checkPart "authority" (some d.authority)
  checkPart "path" (some d.path)
  checkPart "query" d.query
  checkPart "fragment" d.fragment
  checkPart "host" d.host
  d.normal

end Draft

/-! ### Reading and writing -/

def isSchemeChar (c : Char) : Bool :=
  c.isAlphanum || c == '+' || c == '.' || c == '-'

/-- The scheme at the start of an address and what follows it. -/
def takeScheme (s : List Char) : List Char × List Char :=
  match cutAt ':' s with
  | (w, some rest) =>
    if w.all isSchemeChar && (w.head?.map Char.isAlpha).getD true then (w, rest) else ([], s)
  | (_, none) => ([], s)

/-- The parts of an address. -/
def split (s : List Char) : Draft :=
  let (s, fragment) := cutAt '#' s
  let (s, query) := cutAt '?' s
  let (scheme, s) := takeScheme s
  let (authority, path) := match s with
    | '/' :: '/' :: rest => (rest.takeWhile (· != '/'), rest.dropWhile (· != '/'))
    | s => ([], s)
  { scheme := String.ofList scheme
    authority := String.ofList authority
    path := String.ofList path
    query := query.map String.ofList
    fragment := fragment.map String.ofList }

/-- The address that a text spells. -/
def read (text : String) : Except UrlError Url := do
  let s := text.toList
  if Draft.lengthLimit < s.length then throw .tooLong
  match s.findIdx? isControl with
  | some i => throw (.control (s.getD i ' ') i)
  | none => (split s).normal

/-- The host and the port. -/
def place (u : Url) : String :=
  Draft.bracketed u.host ++
    (match u.port with
    | some n => ":" ++ toString n
    | none => "")

def authority (u : Url) : String :=
  (if u.userinfo == "" then "" else u.userinfo ++ "@") ++ u.place

def text (u : Url) : String :=
  (if u.scheme == "" then "" else u.scheme ++ ":") ++
    (if u.authority == "" then "" else "//" ++ u.authority) ++ u.path ++
    (match u.query with
    | some q => "?" ++ q
    | none => "") ++
    (match u.fragment with
    | some f => "#" ++ f
    | none => "")

def draft (u : Url) : Draft where
  scheme := u.scheme
  authority := u.authority
  path := u.path
  query := u.query
  fragment := u.fragment

/-! ### Parts -/

/-- The name and the secret of a user, if there is anything in them. -/
def credentials? (u : Url) : Option (String × String) :=
  let (name, secret) := cutAt ':' u.userinfo.toList
  let part (s : List Char) : String := Percent.unescape (String.ofList s)
  let name := part name
  let secret := part (secret.getD [])
  if name == "" && secret == "" then none else some (name, secret)

/-- The host in its own characters. -/
def hostName (u : Url) : Except DomainError String :=
  if u.host.startsWith "xn--" then Domain.ofAscii u.host else .ok u.host

/-- The fragment that is meant. -/
def fragmentText (u : Url) : String :=
  Percent.unescape (u.fragment.getD "")

def isAbsolute (u : Url) : Bool :=
  u.scheme != "" && u.host != ""

/-- The port in force on the web, named or not. -/
def portInForce (u : Url) : Option Int :=
  u.port <|> [("http", 80), ("https", 443)].lookup u.scheme

/-! ### Addresses under others -/

/-- Path and query; a path that is empty counts as the root. -/
def target (u : Url) : String :=
  (if u.path == "" then "/" else u.path) ++
    (match u.query with
    | some q => "?" ++ q
    | none => "")

/-- The address with another path and query. -/
def withTarget (u : Url) (target : String) : Except UrlError Url :=
  let (path, query) := cutAt '?' target.toList
  { u.draft with path := String.ofList path, query := query.map String.ofList }.read

def withQuery (u : Url) (query : Option String) : Except UrlError Url :=
  { u.draft with query }.read

def withFragment (u : Url) (fragment : String) : Except UrlError Url :=
  { u.draft with fragment := some fragment }.read

def withHost (u : Url) (host : String) : Except UrlError Url :=
  { u.draft with host := some host }.read

/-- The base address as a directory. -/
def directory (base : Url) : Except UrlError Url :=
  if base.target.endsWith "/" then .ok base else base.withTarget (base.target ++ "/")

/-- The place of an address under a directory: an absolute one is where it says. -/
def under (base u : Url) : Except UrlError Url :=
  if u.isAbsolute then .ok u
  else base.withTarget (base.target ++ String.ofList (u.target.toList.dropWhile (· == '/')))

end Url

end SchemaDecl
