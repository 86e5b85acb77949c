import SchemaDecl.Failure

/-! Work that leaves remarks behind and may fail, without state as a `Run` and on a state as an `Act`.
What was said, and what was changed, before a failure stays. -/

namespace SchemaDecl

/-- What work tells while it goes on: its data, and remarks of several kinds. -/
inductive Notice where
  | data (text : String)
  | success (message : String)
  | warning (message : String)
  | error (message : String)
  | debug (message : String)
  deriving DecidableEq, Repr

/-- Work that leaves remarks behind, whether it returns or not. -/
structure Run (α : Type) where
  notices : List Notice
  result : Except Fault α

namespace Run

def fail {α : Type} (f : Fault) : Run α :=
  ⟨[], .error f⟩

def ofExcept {α : Type} (r : Except Fault α) : Run α :=
  ⟨[], r⟩

def tell (n : Notice) : Run Unit :=
  ⟨[n], .ok ()⟩

def andThen {α β : Type} (r : Run α) (f : α → Run β) : Run β :=
  match r.result with
  | .ok x =>
    let next := f x
    ⟨r.notices ++ next.notices, next.result⟩
  | .error e => ⟨r.notices, .error e⟩

instance : Monad Run where
  pure x := ⟨[], .ok x⟩
  bind := andThen

@[simp] theorem result_pure {α : Type} (x : α) : (pure x : Run α).result = .ok x := rfl

@[simp] theorem notices_pure {α : Type} (x : α) : (pure x : Run α).notices = [] := rfl

theorem result_bind {α β : Type} (r : Run α) (f : α → Run β) :
    (r >>= f).result = r.result.bind fun x => (f x).result := by
  change (andThen r f).result = _
  unfold andThen
  cases h : r.result <;> simp [Except.bind]

end Run

/-- Work on a state. -/
def Act (σ α : Type) : Type :=
  σ → Run α × σ

namespace Act

variable {σ τ α β : Type}

def andThen (a : Act σ α) (f : α → Act σ β) : Act σ β := fun s =>
  match a s with
  | (⟨notices, .ok x⟩, s') =>
    let next := f x s'
    (⟨notices ++ next.1.notices, next.1.result⟩, next.2)
  | (⟨notices, .error e⟩, s') => (⟨notices, .error e⟩, s')

instance : Monad (Act σ) where
  pure x := fun s => (pure x, s)
  bind := andThen

/-- Work that leaves the state alone. -/
def ofRun (r : Run α) : Act σ α := fun s => (r, s)

def ofExcept (r : Except Fault α) : Act σ α := ofRun (Run.ofExcept r)

def fail (f : Fault) : Act σ α := ofRun (Run.fail f)

def tell (n : Notice) : Act σ Unit := ofRun (Run.tell n)

def get : Act σ σ := fun s => (pure s, s)

def set (s : σ) : Act σ Unit := fun _ => (pure (), s)

def modify (f : σ → σ) : Act σ Unit := fun s => (pure (), f s)

/-- The outcome of work, be it a failure, as a value. -/
def attempt (a : Act σ α) : Act σ (Except Fault α) := fun s =>
  let (r, s') := a s
  (⟨r.notices, .ok r.result⟩, s')

/-- Work on a part of a larger state. -/
def on (part : τ → σ) (put : σ → τ → τ) (a : Act σ α) : Act τ α := fun t =>
  let (r, s) := a (part t)
  (r, put s t)

theorem bind_of_ok {a : Act σ α} {f : α → Act σ β} {s s' : σ} {ns : List Notice} {x : α}
    (h : a s = (⟨ns, .ok x⟩, s')) :
    (a >>= f) s = (⟨ns ++ (f x s').1.notices, (f x s').1.result⟩, (f x s').2) := by
  change andThen a f s = _
  simp [andThen, h]

theorem bind_of_error {a : Act σ α} {f : α → Act σ β} {s s' : σ} {ns : List Notice} {e : Fault}
    (h : a s = (⟨ns, .error e⟩, s')) : (a >>= f) s = (⟨ns, .error e⟩, s') := by
  change andThen a f s = _
  simp [andThen, h]

end Act

end SchemaDecl
