import SchemaDecl.Paging.Lift
import SchemaDecl.Run

/-! Pages of long listings, and the links that lead from one place to the next. A service answers with
an envelope: a count, the items of the page, and the addresses of its neighbours. Whatever the envelope
looks like, it makes a page: a part that is malformed counts as absent. -/

namespace SchemaDecl

/-! ### Links -/

/-- Where a page lies as seen from its neighbour. -/
inductive Relation where
  | next
  | prev
  deriving DecidableEq, Repr

namespace Relation

def word : Relation → String
  | .next => "next"
  | .prev => "prev"

def ofWord (w : String) : Except Fault Relation :=
  if w == "next" then .ok .next
  else if w == "prev" then .ok .prev
  else .error (.badValue ("Unknown page relation '" ++ w ++ "'"))

@[simp] theorem ofWord_word (r : Relation) : ofWord r.word = .ok r := by
  cases r <;> rfl

end Relation

/-- What a link leads to. -/
inductive Destination where
  | page (relation : Relation)
  | object
  | collection
  deriving DecidableEq, Repr

/-- An address that nobody has looked at yet, the lift for what will be found there, and perhaps the
fetcher that is to look. -/
structure Link (F : Type) where
  destination : Destination
  url : String
  lift : Lift
  fetcher : Option F

namespace Link

variable {F : Type}

/-- Whether two links lead to the same place. Who follows them does not matter. -/
def same (a b : Link F) : Bool :=
  a.destination == b.destination && a.url == b.url && a.lift.name == b.lift.name

/-- The address under a key: a text that is not empty. -/
def urlOf? (raw : Value) (key : String) : Option String :=
  match raw.field? key with
  | some (.text url) => if url == "" then none else some url
  | _ => none

/-- The link under a key, if there is one. -/
def under (key : String) (destination : Destination) (raw : Value) (lift : Lift)
    (fetcher : Option F) : Option (Link F) :=
  (urlOf? raw key).map fun url => ⟨destination, url, lift, fetcher⟩

/-- The link of an envelope to a neighbour of its page. -/
def toPage (r : Relation) (raw : Value) (lift : Lift) (fetcher : Option F) : Option (Link F) :=
  under r.word (.page r) raw lift fetcher

/-- The link of a reference to an object. -/
def toObject (raw : Value) (lift : Lift) (fetcher : Option F) : Option (Link F) :=
  under "link" .object raw lift fetcher

/-- The link of a reference to a collection. -/
def toCollection (raw : Value) (lift : Lift) (fetcher : Option F) : Option (Link F) :=
  under "link" .collection raw lift fetcher

def sameOption : Option (Link F) → Option (Link F) → Bool
  | none, none => true
  | some a, some b => a.same b
  | _, _ => false

end Link

/-! ### Pages -/

structure Page (F : Type) where
  totalCount : Nat
  items : List Value
  next : Option (Link F)
  prev : Option (Link F)

namespace Page

variable {F : Type}

/-- The tag that every page has. -/
def tag : String := "/api/collections/paginated"

def same (a b : Page F) : Bool :=
  a.totalCount == b.totalCount && Value.sameItems a.items b.items &&
    Link.sameOption a.next b.next && Link.sameOption a.prev b.prev

/-- Lifts items one after another, up to the first that cannot be lifted. -/
def liftItems (lift : Lift) : List Value → Except Fault (List Value)
  | [] => .ok []
  | v :: vs => do
    let w ← lift.run v
    let ws ← liftItems lift vs
    return w :: ws

/-- The items of an envelope as they came. -/
def dataOf (raw : Value) : List Value :=
  match raw.field? "data" with
  | some (.list vs) => vs
  | _ => []

/-- The count of an envelope, which is that of its items when it gives none. -/
def countOf (raw : Value) (count : Nat) : Nat :=
  match raw.field? "total_count" with
  | some (.int n) => if n < 0 then count else n.toNat
  | _ => count

/-- What is remarkable about an envelope. -/
def remarks (raw : Value) : List Notice :=
  match raw with
  | .map _ =>
    match raw.fieldOrNull "data" with
    | .null | .list _ => []
    | v => [.debug ("Ignoring malformed page data of type " ++ v.kindName)]
  | v => [.debug ("Paginated response is not an object: " ++ v.kindName)]

/-- The page of an envelope with items that are lifted already. -/
def assemble (raw : Value) (lift : Lift) (fetcher : Option F) (items : List Value) : Page F where
  totalCount := countOf raw items.length
  items := items
  next := Link.toPage .next raw lift fetcher
  prev := Link.toPage .prev raw lift fetcher

/-- The page that a response describes. Its links carry the same lift and are bound to the fetcher. -/
def ofValue (raw : Value) (lift : Lift) (fetcher : Option F) : Run (Page F) :=
  ⟨remarks raw, (liftItems lift (dataOf raw)).map (assemble raw lift fetcher)⟩

end Page

end SchemaDecl
