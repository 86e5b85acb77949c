import SchemaDecl.Proofs.World

/-! What work does whatever the answers are: which questions it asks and with which faults it may end.
Work that only looks leaves all files as they are; so if work looks first and does not end in a failure
any more once it has begun to write, a failure leaves no trace in the files. -/

namespace SchemaDecl

namespace Work

variable {α β γ : Type} {P : Query → Prop} {E : Fault → Prop}

/-! ### Work as a monad -/

theorem andThen_assoc (x : Work α) (f : α → Work β) (g : β → Work γ) :
    (x.andThen f).andThen g = x.andThen fun a => (f a).andThen g := by
  induction x with
  | done r => cases r <;> rfl
  | tell n next ih => exact congrArg (tell n) ih
  | ask q next ih => exact congrArg (ask q) (funext ih)

theorem andThen_pure (x : Work α) : x.andThen pure = x := by
  induction x with
  | done r => cases r <;> rfl
  | tell n next ih => exact congrArg (tell n) ih
  | ask q next ih => exact congrArg (ask q) (funext ih)

instance : LawfulMonad Work :=
  LawfulMonad.mk' Work andThen_pure (fun _ _ => rfl) andThen_assoc

/-! ### Questions and faults along the way -/

/-- Whatever the answers are, the questions are of one kind, and the fault at the end, if there is one, is
of another. -/
def Within (P : Query → Prop) (E : Fault → Prop) : Work α → Prop
  | .done (.ok _) => True
  | .done (.error e) => E e
  | .tell _ next => next.Within P E
  | .ask q next => P q ∧ ∀ a, (next a).Within P E

theorem within_done {r : Except Fault α} (h : ∀ e, r = .error e → E e) : (Work.done r).Within P E := by
  cases r with
  | ok a => trivial
  | error e => exact h e rfl

theorem within_pure (a : α) : (pure a : Work α).Within P E :=
  trivial

theorem within_fail {e : Fault} (h : E e) : (fail e : Work α).Within P E :=
  h

theorem within_query {q : Query} (h : P q) : (query q).Within P E :=
  ⟨h, fun _ => trivial⟩

theorem within_say (n : Notice) : (say n).Within P E :=
  trivial

theorem within_ofRun {x : Run α} (h : ∀ e, x.result = .error e → E e) : (ofRun x).Within P E := by
  obtain ⟨notices, r⟩ := x
  rw [ofRun]
  induction notices with
  | nil => exact within_done h
  | cons n notices ih => exact ih h

theorem within_ofAnswer {r : Except FileFault α} (h : ∀ e, E (.file e)) : (ofAnswer r).Within P E := by
  refine within_done fun e he => ?_
  obtain ⟨f, -, rfl⟩ := mapError_eq_error he
  exact h f

theorem Within.bind {x : Work α} {f : α → Work β} (hx : x.Within P E) (hf : ∀ a, (f a).Within P E) :
    (x >>= f).Within P E := by
  induction x with
  | done r =>
    cases r with
    | ok a => exact hf a
    | error e => exact hx
  | tell n next ih => exact ih hx
  | ask q next ih => exact ⟨hx.1, fun a => ih a (hx.2 a)⟩

theorem within_forM {f : α → Work Unit} (hf : ∀ a, (f a).Within P E) (xs : List α) :
    (xs.forM f).Within P E := by
  induction xs with
  | nil => trivial
  | cons a xs ih => exact (hf a).bind fun _ => ih

/-- What goes on after an outcome may rely on its fault. -/
theorem Within.bind_attempt {x : Work α} {f : Except Fault α → Work β} (hx : x.Within P E)
    (hf : ∀ r, (∀ e, r = .error e → E e) → (f r).Within P E) : (x.attempt >>= f).Within P E := by
  induction x with
  | done r =>
    refine hf r fun e he => ?_
    subst he
    exact hx
  | tell n next ih => exact ih hx
  | ask q next ih => exact ⟨hx.1, fun a => ih a (hx.2 a)⟩

end Work

/-- A question that leaves all files as they are. -/
def Query.Harmless : Query → Prop
  | .createTemporary _ _ | .act _ => False
  | _ => True

/-- Work that only looks. -/
def Work.Looks {α : Type} (x : Work α) : Prop :=
  x.Within Query.Harmless fun _ => True

/-- Work that does not end in a failure. -/
def Work.Firm {α : Type} (x : Work α) : Prop :=
  x.Within (fun _ => True) fun e => ∀ f, e ≠ .failure f

theorem Fault.file_ne_failure (e : FileFault) (f : Failure) : Fault.file e ≠ .failure f :=
  Fault.noConfusion

theorem Fault.notUtf8_ne_failure (e : Text.Utf8Error) (f : Failure) : Fault.notUtf8 e ≠ .failure f :=
  Fault.noConfusion

theorem Fault.ofWriteError_ne_failure (e : Json.WriteError) (f : Failure) :
    Fault.ofWriteError e ≠ .failure f := by
  cases e <;> exact Fault.noConfusion

namespace World

variable {σ α β : Type} {carry : Transport σ} {w w' : World σ}

/-! ### What work leaves behind -/

theorem ends_of_result {x : Work α} {r : Except Fault α} (h : (perform carry x w).1.result = r) :
    Ends carry x w r (perform carry x w).2 :=
  ⟨(perform carry x w).1.notices, by rw [← h]⟩

theorem exists_ends_of_toOption {x : Work α} {a : α}
    (h : (perform carry x w).1.result.toOption = some a) : ∃ w', Ends carry x w (.ok a) w' := by
  cases hr : (perform carry x w).1.result with
  | error f =>
    rw [hr] at h
    cases h
  | ok b =>
    rw [hr] at h
    cases h
    exact ⟨_, ends_of_result hr⟩

/-- Whatever comes of a request is an answer. -/
theorem fetch_yields {url : String} {r : Except Fault (Except Fault Response)}
    (h : (fetch carry url).Yields w r w') : (∃ a, r = .ok a) ∧ ∃ net, w' = { w with net } := by
  obtain ⟨ns, h⟩ := h
  unfold fetch at h
  generalize Client.requestFor ⟨"", [], none⟩ { } "GET" url none none = request at h
  cases request with
  | error e =>
    cases h
    exact ⟨⟨_, rfl⟩, w.net, rfl⟩
  | ok request =>
    cases h
    exact ⟨⟨_, rfl⟩, _, rfl⟩

theorem change_yields {f : World σ → Except FileFault (α × Files)}
    {r : Except Fault (Except FileFault α)} (h : (change f).Yields w r w') :
    (∃ a, r = .ok a) ∧ ∃ files, w' = { w with files } := by
  obtain ⟨ns, h⟩ := h
  have hget : Act.get w = (⟨[], .ok w⟩, w) := rfl
  rw [change, Act.bind_of_ok hget] at h
  cases hf : f w with
  | error e =>
    rw [hf] at h
    cases h
    exact ⟨⟨_, rfl⟩, w.files, rfl⟩
  | ok p =>
    rw [hf] at h
    cases h
    exact ⟨⟨_, rfl⟩, p.2, rfl⟩

/-- There is an answer to every question, and to give it does not move the place where paths begin. -/
theorem answer_yields {q : Query} {r : Except Fault q.Answer} (h : (answer carry q).Yields w r w') :
    (∃ a, r = .ok a) ∧ w'.directory = w.directory := by
  cases q with
  | fetch url =>
    obtain ⟨ha, net, rfl⟩ := fetch_yields h
    exact ⟨ha, rfl⟩
  | createTemporary d name =>
    obtain ⟨ha, files, rfl⟩ := change_yields h
    exact ⟨ha, rfl⟩
  | act a =>
    obtain ⟨ha, files, rfl⟩ := change_yields h
    exact ⟨ha, rfl⟩
  | _ =>
    obtain ⟨ns, h⟩ := h
    cases h
    exact ⟨⟨_, rfl⟩, rfl⟩

theorem files_of_answer {q : Query} (hq : q.Harmless) {r : Except Fault q.Answer}
    (h : (answer carry q).Yields w r w') : w'.files = w.files := by
  cases q with
  | createTemporary d name => exact hq.elim
  | act a => exact hq.elim
  | fetch url =>
    obtain ⟨-, net, rfl⟩ := fetch_yields h
    rfl
  | _ =>
    obtain ⟨ns, h⟩ := h
    cases h
    rfl

/-- Work that asks goes on with an answer. -/
theorem ends_ask_iff {q : Query} {next : q.Answer → Work α} {r : Except Fault α} :
    Ends carry (.ask q next) w r w' ↔
      ∃ a v, (answer carry q).Yields w (.ok a) v ∧ Ends carry (next a) v r w' := by
  refine ends_ask.trans ⟨?_, Or.inl⟩
  rintro (h | ⟨e, he, -⟩)
  · exact h
  · obtain ⟨⟨a, ha⟩, -⟩ := answer_yields he
    cases ha

/-- Work that is attempted returns the outcome that it has. -/
theorem ends_attempt {x : Work α} {r : Except Fault α} (h : Ends carry x w r w') :
    Ends carry x.attempt w (.ok r) w' := by
  induction x generalizing w with
  | done result =>
    obtain ⟨rfl, rfl⟩ := ends_done.1 h
    exact ends_done.2 ⟨rfl, rfl⟩
  | tell n next ih => exact ends_tell.2 (ih (ends_tell.1 h))
  | ask q next ih =>
    obtain ⟨a, v, ha, h⟩ := ends_ask_iff.1 h
    exact ends_ask_iff.2 ⟨a, v, ha, ih a h⟩

/-- Paths begin where they did after any work. -/
theorem directory_of_ends {x : Work α} {r : Except Fault α} (h : Ends carry x w r w') :
    w'.directory = w.directory := by
  induction x generalizing w with
  | done result => rw [(ends_done.1 h).2]
  | tell n next ih => exact ih (ends_tell.1 h)
  | ask q next ih =>
    obtain ⟨a, v, ha, h⟩ := ends_ask_iff.1 h
    exact (ih a h).trans (answer_yields ha).2

/-- Work that only looks leaves the files as they are. -/
theorem files_of_looks {x : Work α} (hx : x.Looks) {r : Except Fault α} (h : Ends carry x w r w') :
    w'.files = w.files := by
  induction x generalizing w with
  | done result => rw [(ends_done.1 h).2]
  | tell n next ih => exact ih hx (ends_tell.1 h)
  | ask q next ih =>
    obtain ⟨a, v, ha, h⟩ := ends_ask_iff.1 h
    exact (ih a (hx.2 a) h).trans (files_of_answer hx.1 ha)

/-- The fault that work ends with is one that it may end with. -/
theorem fault_of_within {P : Query → Prop} {E : Fault → Prop} {x : Work α} (hx : x.Within P E)
    {e : Fault} (h : Ends carry x w (.error e) w') : E e := by
  induction x generalizing w with
  | done result =>
    obtain ⟨rfl, -⟩ := ends_done.1 h
    exact hx
  | tell n next ih => exact ih hx (ends_tell.1 h)
  | ask q next ih =>
    obtain ⟨a, v, -, h⟩ := ends_ask_iff.1 h
    exact ih a (hx.2 a) h

/-- Work that looks before it writes, and does not end in a failure once it writes, has written nothing
when it ends in a failure. -/
theorem files_of_failure {x : Work α} {f : α → Work β} (hx : x.Looks) (hf : ∀ a, (f a).Firm)
    {e : Failure} (h : Ends carry (x >>= f) w (.error (.failure e)) w') : w'.files = w.files := by
  rcases ends_bind.1 h with ⟨a, v, -, h⟩ | ⟨e', h, -⟩
  · exact (fault_of_within (hf a) h e rfl).elim
  · exact files_of_looks hx h

/-! ### What work tells -/

/-- Something is told while work is carried out. -/
def Tells (carry : Transport σ) (x : Work α) (w : World σ) (n : Notice) : Prop :=
  n ∈ (perform carry x w).1.notices

theorem tells_tell {n n' : Notice} {x : Work α} :
    Tells carry (.tell n x) w n' ↔ n' = n ∨ Tells carry x w n' := by
  have htell : Act.tell n w = (⟨[n], .ok ()⟩, w) := rfl
  rw [Tells, perform, Work.carryOut, Act.bind_of_ok htell]
  exact List.mem_cons

theorem tells_ask {q : Query} {next : q.Answer → Work α} {n : Notice} {a : q.Answer} {v : World σ}
    (ha : (answer carry q).Yields w (.ok a) v) (hn : Tells carry (next a) v n) :
    Tells carry (.ask q next) w n := by
  obtain ⟨ns, ha⟩ := ha
  rw [Tells, perform, Work.carryOut, Act.bind_of_ok ha]
  exact List.mem_append_right _ hn

/-- What the part after an outcome tells is told by the whole. -/
theorem tells_bind {x : Work α} {f : α → Work β} {a : α} {v : World σ} (hx : Ends carry x w (.ok a) v)
    {n : Notice} (hn : Tells carry (f a) v n) : Tells carry (x >>= f) w n := by
  induction x generalizing w with
  | done r =>
    obtain ⟨rfl, rfl⟩ := ends_done.1 hx
    exact hn
  | tell n' next ih => exact tells_tell.2 (Or.inr (ih (ends_tell.1 hx)))
  | ask q next ih =>
    obtain ⟨b, u, hb, h⟩ := ends_ask_iff.1 hx
    exact tells_ask hb (ih b h)

end World

end SchemaDecl
