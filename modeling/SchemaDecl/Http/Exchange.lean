import SchemaDecl.Http.Message
import SchemaDecl.Http.Reference
import SchemaDecl.Run
import SchemaDecl.Text.Base64

/-! Exchanges with a service. A transport carries one request and brings one response or trouble; an
exchange goes on for as long as responses send the client elsewhere, up to a limit. Credentials are not
shown to another service. -/

namespace SchemaDecl

/-- What carries requests. -/
abbrev Transport (σ : Type) : Type :=
  Request → Act σ Response

/-- The host in its own characters, if it can be read. -/
def Url.requireHost (u : Url) : Except Fault String :=
  u.hostName.mapError .badDomain

/-- The address, at the host of another one if it names none. -/
def Url.hostedBy (u other : Url) : Except Fault Url := do
  if (← u.requireHost) == "" then (u.withHost (← other.requireHost)).mapError .badUrl else return u

/-- Whether two addresses belong to one service. -/
def Url.isSameOrigin (a b : Url) : Except Fault Bool := do
  if a.scheme != b.scheme then return false
  return (← a.requireHost) == (← b.requireHost) && a.portInForce == b.portInForce

/-- Whether the way leads from one service to the same one over a safe connection. -/
def Url.isUpgrade (a b : Url) : Except Fault Bool := do
  return (← a.requireHost) == (← b.requireHost) && a.scheme == "http" && b.scheme == "https" &&
    a.portInForce == some 80 && b.portInForce == some 443

namespace Request

/-! ### Requests that can be sent -/

/-- Refuses a request to a host that has no name in ASCII or none in its own characters. A host that the
header names is not looked at. -/
def checked (r : Request) : Except Fault Request := do
  if r.url.host != "" && (r.headers.get? "host").isNone then
    let _ ← r.url.requireHost
    (Text.requireAscii r.url.place).mapError .notAscii
  return r

/-- The request with the credentials that stand in its address. -/
def signed (r : Request) : Request :=
  match r.url.credentials? with
  | none => r
  | some (name, secret) =>
    let token := String.ofList (Text.Base64.encode (Text.encode (name ++ ":" ++ secret)))
    { r with headers := r.headers.put "authorization" ("Basic " ++ token) }

/-! ### Going on -/

/-- The method with which a client goes on after a response that sends it elsewhere. -/
def nextMethod (method : String) (status : Nat) : String :=
  if method == "HEAD" then method
  else if status == 303 || status == 302 then "GET"
  else if status == 301 && method == "POST" then "GET"
  else method

/-- The address to which a response sends the client, as seen from the one it came from. -/
def nextUrl (url : Url) (location : String) : Except Fault Url := do
  let u ← (Url.read location).mapError fun e =>
    .transport ⟨.remoteProtocol, "Invalid URL in location header: " ++ e.message ++ "."⟩
  let u ← if u.scheme == "" then pure u else u.hostedBy url
  let u ← if u.isAbsolute then pure u else (url.join u).mapError .badUrl
  if url.fragmentText != "" && u.fragmentText == "" then
    (u.withFragment url.fragmentText).mapError .badUrl
  else return u

/-- The header that goes along to an address. -/
def nextHeaders (r : Request) (url : Url) : Except Fault Headers := do
  if ← url.isSameOrigin r.url then return r.headers
  let headers := if ← r.url.isUpgrade url then r.headers else r.headers.erase "authorization"
  (Text.requireAscii url.place).mapError .notAscii
  return if (headers.get? "host").isSome then headers.put "host" url.place else headers

/-- The request with which a client goes on. -/
def next (r : Request) (status : Nat) (location : String) : Except Fault Request := do
  let method := nextMethod r.method status
  let url ← nextUrl r.url location
  let headers ← r.nextHeaders url
  return {
    method, url, headers
    body := if method != r.method && method == "GET" then none else r.body }

/-- Responses are kept under the addresses they come from, which must begin with a scheme. What stands
behind the last number sign does not count. -/
def requireScheme (r : Request) : Except Fault Unit :=
  let (page, part) :=
    match Url.cutAtLast '#' r.url.text.toList with
    | (some page, part) => (page, part)
    | (none, page) => (page, [])
  let scheme := page.takeWhile fun c => c != '/' && c != ':'
  if !scheme.isEmpty && (page.drop scheme.length).head? == some ':' then .ok ()
  else
    let text := String.ofList (if part.isEmpty then page else page ++ '#' :: part)
    .error (.badValue ("unknown url type: " ++ Text.shown text))

end Request

/-- How often a client lets itself be sent elsewhere. -/
def redirectLimit : Nat := 20

variable {σ : Type}

/-- Sends a request and follows the responses; `left` counts how often it may still be sent on. -/
def Transport.exchange (carry : Transport σ) : Nat → Request → Act σ Response
  | left, request => do
    let response ← carry request
    Act.ofExcept request.requireScheme
    match response.redirection? with
    | none => pure response
    | some location =>
      let next ← Act.ofExcept (request.next response.status location)
      match left with
      | 0 => Act.fail (.transport ⟨.tooManyRedirects, "Exceeded maximum allowed redirects."⟩)
      | left + 1 => carry.exchange left next

/-- Sends a request and follows the responses. -/
def Transport.send (carry : Transport σ) (request : Request) : Act σ Response :=
  carry.exchange redirectLimit request.signed

end SchemaDecl
