import SchemaDecl.Http.Url

/-! References: addresses as seen from another address. Where schemes are alike, what a reference leaves
out is taken from the base: the authority, the directory of a path, the query of an empty path. A query or
a fragment with nothing in it counts as left out. -/

namespace SchemaDecl

/-- The parts of a reference. Parameters stand behind the last segment of a path. -/
structure Reference where
  scheme : String
  authority : String
  path : String
  params : String
  query : String
  fragment : String
  deriving DecidableEq, Repr

namespace Reference

/-! ### Schemes -/

/-- Schemes with paths that may be relative. -/
def hierarchical : List String :=
  ["", "ftp", "http", "gopher", "nntp", "imap", "wais", "file", "https", "shttp", "mms", "prospero",
    "rtsp", "rtsps", "rtspu", "sftp", "svn", "svn+ssh", "ws", "wss"]

/-- Schemes with an authority. -/
def located : List String :=
  hierarchical ++ ["telnet", "snews", "rsync", "nfs", "git", "git+ssh"]

/-- Schemes with parameters. -/
def parametrised : List String :=
  ["", "ftp", "hdl", "prospero", "http", "imap", "https", "shttp", "rtsp", "rtsps", "rtspu", "sip",
    "sips", "mms", "sftp", "tel"]

/-! ### Reading and writing -/

/-- The scheme in front, small, or else the one that is given. -/
def takeScheme (usual : String) (s : List Char) : String × List Char :=
  match Url.cutAt ':' s with
  | (w, some rest) =>
    if w.all Url.isSchemeChar && (w.head?.map Char.isAlpha).getD false then
      ((String.ofList w).toLower, rest)
    else (usual, s)
  | (_, none) => (usual, s)

/-- The parameters behind the last segment of a path. -/
def takeParams (path : List Char) : List Char × List Char :=
  let last := (path.reverse.takeWhile (· != '/')).reverse
  let front := path.take (path.length - last.length)
  match Url.cutAt ';' last with
  | (segment, some params) => (front ++ segment, params)
  | (_, none) => (path, [])

def read (usual : String) (text : String) : Reference :=
  let (scheme, s) := takeScheme usual text.toList
  let (authority, s) := match s with
    | '/' :: '/' :: rest =>
      let ends (c : Char) : Bool := c == '/' || c == '?' || c == '#'
      (rest.takeWhile fun c => !ends c, rest.dropWhile fun c => !ends c)
    | s => ([], s)
  let (s, fragment) := Url.cutAt '#' s
  let (path, query) := Url.cutAt '?' s
  let (path, params) := if parametrised.contains scheme then takeParams path else (path, [])
  { scheme
    authority := String.ofList authority
    path := String.ofList path
    params := String.ofList params
    query := String.ofList (query.getD [])
    fragment := String.ofList (fragment.getD []) }

def text (r : Reference) : String :=
  let part (mark s : String) : String := if s == "" then "" else mark ++ s
  let path := r.path ++ part ";" r.params
  let place :=
    if r.authority != "" || (r.scheme != "" && located.contains r.scheme) || path.startsWith "//" then
      "//" ++ r.authority ++ (if path == "" || path.startsWith "/" then path else "/" ++ path)
    else path
  (if r.scheme == "" then "" else r.scheme ++ ":") ++ place ++ part "?" r.query ++ part "#" r.fragment

/-! ### Joining -/

/-- Drops the empty segments between the first and the last one. -/
def dropInnerEmpty : List String → List String
  | [] => []
  | first :: rest => first :: (rest.dropLast.filter (· != "") ++ rest.drop (rest.length - 1))

/-- Follows the steps of a path; above the top nothing is left to leave. -/
def walk (kept : List String) (segment : String) : List String :=
  if segment == ".." then kept.dropLast else if segment == "." then kept else kept ++ [segment]

/-- The path that a path names as seen from another one. -/
def joinPath (base path : String) : String :=
  let here := base.splitOn "/"
  let here := if here.getLast? == some "" then here else here.dropLast
  let segments :=
    if path.startsWith "/" then path.splitOn "/" else dropInnerEmpty (here ++ path.splitOn "/")
  let ends := segments.getLast? == some "." || segments.getLast? == some ".."
  let path := "/".intercalate (segments.foldl walk [] ++ (if ends then [""] else []))
  if path == "" then "/" else path

/-- What a reference names as seen from a base. -/
def join (base r : Reference) : Reference :=
  let r := if located.contains r.scheme && r.authority == "" then { r with authority := base.authority }
    else r
  if r.path == "" && r.params == "" then
    { r with
      path := base.path
      params := base.params
      query := if r.query == "" then base.query else r.query }
  else { r with path := joinPath base.path r.path }

/-- The text of the address that a text names as seen from an address. -/
def joinText (base text : String) : String :=
  if base == "" then text
  else if text == "" then base
  else
    let b := read "" base
    let r := read b.scheme text
    if r.scheme != b.scheme || !hierarchical.contains r.scheme then text
    else if located.contains r.scheme && r.authority != "" then r.text
    else (join b r).text

end Reference

/-- The address that another one names as seen from this one. -/
def Url.join (base u : Url) : Except UrlError Url :=
  Url.read (Reference.joinText base.text u.text)

end SchemaDecl
