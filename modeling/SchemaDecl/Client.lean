import SchemaDecl.Http.Exchange
import SchemaDecl.Http.Form
import SchemaDecl.Json.Writer

/-! A client of one service. While it is open it sends requests, each of them once, and turns what goes
wrong into failures: trouble with the connection, a status that says no, a body that is not JSON. Other
trouble on the way is left to the caller. -/

namespace SchemaDecl

structure Client where
  base : String
  headers : Headers
  /-- The directory that addresses are relative to, while the client is open. -/
  directory : Option Url := none
  deriving Inhabited, Repr

namespace Client

/-! ### Opening and closing -/

def opened (c : Client) : Except Fault Client := do
  let u ← (Url.read c.base >>= Url.directory).mapError .badUrl
  let headers ← (Headers.read c.headers).mapError .notAscii
  return { c with headers, directory := some u }

def closed (c : Client) : Client :=
  { c with directory := none }

/-! ### Requests -/

/-- An address with the query that parameters make. -/
def withParams (u : Url) : Option Value → Except Fault Url
  | none => .ok u
  | some params => do (u.withQuery (← Form.queryOf params)).mapError .badUrl

/-- The request for an address that may be relative to the base of the client. -/
def requestFor (c : Client) (directory : Url) (method url : String) (params json : Option Value) :
    Except Fault Request := do
  let u ← (Url.read url >>= directory.under).mapError .badUrl
  let u ← withParams u params
  let body ← match json with
    | none => pure none
    | some v => some <$> (Json.write .message v).mapError .ofWriteError
  let isTyped := body.isNone || (c.headers.get? "content-type").isSome
  Request.checked {
    method := Text.toCapitals method
    url := u
    headers := c.headers ++ (if isTyped then [] else [("content-type", "application/json")])
    body }

/-! ### What services say when they refuse -/

/-- The first of the values that says something, else the last one. -/
def firstTruthy : List Value → Value
  | [] => .text ""
  | v :: vs => if v.isTruthy then v else firstTruthy vs

/-- What a service says about an error, in one of the usual places. -/
def detailOf (body : Value) : String :=
  match body with
  | .map _ =>
    let error := match body.fieldOrNull "error" with
      | .map inner => (Value.map inner).fieldOrNull "message"
      | v => v
    (firstTruthy [body.fieldOrNull "message", error, body.fieldOrNull "detail"]).display
  | v => v.display

/-- How much of a text that is not JSON is passed on. -/
def detailLimit : Nat := 200

/-- What a response says about an error. -/
def explanation (r : Response) : Except Fault String :=
  match r.json with
  | .ok v => .ok (detailOf v)
  | .error _ => r.text.map fun s => String.ofList (s.toList.take detailLimit)

/-- Refuses the responses whose status says no. -/
def accepted (r : Response) : Except Fault Response := do
  if r.status < 400 then return r
  throw (.failure (.service (.rejected r.status (← explanation r))))

/-! ### Sending -/

variable {σ : Type}

/-- Trouble with the connection is a failure that tells the address. -/
def troubled (url : String) : Fault → Fault
  | .transport e =>
    if e.kind.isConnection then .failure (.service (.unreachable url e.message)) else .transport e
  | f => f

/-- Sends one request. -/
def request (carry : Transport σ) (c : Client) (method url : String) (params json : Option Value) :
    Act σ Response := do
  let some directory := c.directory | Act.fail .notOpen
  Act.tell (.debug (method ++ " " ++ url))
  let outcome ← Act.attempt do
    let r ← Act.ofExcept (c.requestFor directory method url params json)
    carry.send r
  Act.ofExcept ((outcome.mapError (troubled url)).bind accepted)

/-- Gets the data at an address. -/
def getJson (carry : Transport σ) (c : Client) (url : String) : Act σ Value := do
  let r ← c.request carry "GET" url none none
  match r.json with
  | .ok v => pure v
  | .error reason => Act.fail (.failure (.service (.notJson url reason)))

end Client

end SchemaDecl
