import SchemaDecl.Proofs.Work

/-! Work amid refusals. Devices may fail at any step: a step that changes files may be refused although
the files as they are would not refuse it, and then the bytes of a file that is open for writing are not
known. Work comes to its outcomes amid every choice of such refusals; without any it ends as it does in
the world. Looking at files is not refused, and neither is removing one. -/

namespace SchemaDecl

/-! ### Refusals -/

/-- The answer by which a step is refused, if it can be. -/
def Query.refusal (e : FileFault) : (q : Query) → Option q.Answer
  | .createTemporary _ _ => some (.error e)
  | .act (.remove _) => none
  | .act _ => some (.error e)
  | _ => none

/-- The file that is open while something is done to it. -/
def FileAction.opened? : FileAction → Option Path
  | .write p _ | .flush p | .sync p | .close p => some p
  | _ => none

namespace World

variable {σ α β : Type} {carry : Transport σ} {w w' : World σ}

/-- What a world is after a step was refused: what it was, except that an open file may hold any
bytes. -/
def Torn (w : World σ) (q : Query) (w' : World σ) : Prop :=
  w' = w ∨ ∃ a p place old bytes, q = .act a ∧ a.opened? = some p ∧
    w.files.locate (w.place p) = .ok place ∧ w.files.get? place = some (.file old) ∧
    w' = { w with files := w.files.set place (.file bytes) }

/-- Work comes to an outcome in a world where some steps are refused, and leaves another one. -/
def EndsAmid (carry : Transport σ) :
    Work α → World σ → List Query → Except Fault α → World σ → Prop
  | .done result, w, refused, r, w' => refused = [] ∧ r = result ∧ w' = w
  | .tell _ next, w, refused, r, w' => EndsAmid carry next w refused r w'
  | .ask q next, w, refused, r, w' =>
    (∃ a v, (answer carry q).Yields w (.ok a) v ∧ EndsAmid carry (next a) v refused r w') ∨
      ∃ e a v rest, q.refusal e = some a ∧ w.Torn q v ∧ refused = q :: rest ∧
        EndsAmid carry (next a) v rest r w'

variable {refused : List Query}

/-- How work ends in a world is how it ends amid no refusals. -/
theorem endsAmid_of_ends {x : Work α} {r : Except Fault α} (h : Ends carry x w r w') :
    EndsAmid carry x w [] r w' := by
  induction x generalizing w with
  | done result => exact ⟨rfl, ends_done.1 h⟩
  | tell n next ih => exact ih (ends_tell.1 h)
  | ask q next ih =>
    obtain ⟨a, v, ha, h⟩ := ends_ask_iff.1 h
    exact Or.inl ⟨a, v, ha, ih a h⟩

theorem EndsAmid.bind {x : Work α} {f : α → Work β} {r : Except Fault β}
    (h : EndsAmid carry (x >>= f) w refused r w') :
    (∃ a v before after, refused = before ++ after ∧ EndsAmid carry x w before (.ok a) v ∧
        EndsAmid carry (f a) v after r w') ∨
      ∃ e, EndsAmid carry x w refused (.error e) w' ∧ r = .error e := by
  induction x generalizing w refused with
  | done result =>
    cases result with
    | error e =>
      obtain ⟨rfl, rfl, rfl⟩ := h
      exact Or.inr ⟨e, ⟨rfl, rfl, rfl⟩, rfl⟩
    | ok a => exact Or.inl ⟨a, w, [], refused, rfl, ⟨rfl, rfl, rfl⟩, h⟩
  | tell n next ih => exact ih h
  | ask q next ih =>
    rcases h with ⟨a, v, ha, h⟩ | ⟨e, a, v, rest, he, hv, rfl, h⟩
    · rcases ih a h with ⟨b, u, before, after, rfl, hb, hf⟩ | ⟨e, hb, rfl⟩
      · exact Or.inl ⟨b, u, before, after, rfl, Or.inl ⟨a, v, ha, hb⟩, hf⟩
      · exact Or.inr ⟨e, Or.inl ⟨a, v, ha, hb⟩, rfl⟩
    · rcases ih a h with ⟨b, u, before, after, rfl, hb, hf⟩ | ⟨e', hb, rfl⟩
      · exact Or.inl ⟨b, u, q :: before, after, rfl, Or.inr ⟨e, a, v, before, he, hv, rfl, hb⟩, hf⟩
      · exact Or.inr ⟨e', Or.inr ⟨e, a, v, rest, he, hv, rfl, hb⟩, rfl⟩

/-- Work that is attempted returns its outcome. -/
theorem EndsAmid.attempt {x : Work α} {r : Except Fault (Except Fault α)}
    (h : EndsAmid carry x.attempt w refused r w') :
    ∃ result, r = .ok result ∧ EndsAmid carry x w refused result w' := by
  induction x generalizing w refused with
  | done result =>
    obtain ⟨rfl, rfl, rfl⟩ := h
    exact ⟨result, rfl, rfl, rfl, rfl⟩
  | tell n next ih => exact ih h
  | ask q next ih =>
    rcases h with ⟨a, v, ha, h⟩ | ⟨e, a, v, rest, he, hv, rfl, h⟩
    · obtain ⟨result, hr, h⟩ := ih a h
      exact ⟨result, hr, Or.inl ⟨a, v, ha, h⟩⟩
    · obtain ⟨result, hr, h⟩ := ih a h
      exact ⟨result, hr, Or.inr ⟨e, a, v, rest, he, hv, rfl, h⟩⟩

/-- Work goes on after an attempt, whatever came of it. -/
theorem EndsAmid.attempt_bind {x : Work α} {f : Except Fault α → Work β} {r : Except Fault β}
    (h : EndsAmid carry (x.attempt >>= f) w refused r w') :
    ∃ result v before after, refused = before ++ after ∧ EndsAmid carry x w before result v ∧
      EndsAmid carry (f result) v after r w' := by
  rcases h.bind with ⟨a, v, before, after, hrefused, hx, hf⟩ | ⟨e, hx, -⟩
  · obtain ⟨result, ha, hx⟩ := hx.attempt
    cases ha
    exact ⟨a, v, before, after, hrefused, hx, hf⟩
  · obtain ⟨result, ha, -⟩ := hx.attempt
    cases ha

/-- Carries work out where the steps that are chosen are refused and leave no trace, and tells them. -/
def performAmid (carry : Transport σ) (chosen : Query → Option FileFault) :
    Work α → World σ → List Query × Except Fault α × World σ
  | .done r, w => ([], r, w)
  | .tell _ next, w => performAmid carry chosen next w
  | .ask q next, w =>
    match (chosen q).bind q.refusal with
    | some a =>
      let (refused, ending) := performAmid carry chosen (next a) w
      (q :: refused, ending)
    | none =>
      match answer carry q w with
      | (⟨_, .ok a⟩, v) => performAmid carry chosen (next a) v
      | (⟨_, .error e⟩, v) => ([], .error e, v)

theorem endsAmid_performAmid (carry : Transport σ) (chosen : Query → Option FileFault) (x : Work α)
    (w : World σ) :
    EndsAmid carry x w (performAmid carry chosen x w).1 (performAmid carry chosen x w).2.1
      (performAmid carry chosen x w).2.2 := by
  induction x generalizing w with
  | done r => exact ⟨rfl, rfl, rfl⟩
  | tell n next ih => exact ih w
  | ask q next ih =>
    rw [performAmid]
    cases hr : (chosen q).bind q.refusal with
    | some a =>
      obtain ⟨e, -, ha⟩ := Option.bind_eq_some_iff.1 hr
      exact Or.inr ⟨e, a, w, _, ha, Or.inl rfl, rfl, ih a w⟩
    | none =>
      dsimp only
      split
      next ns a v ha => exact Or.inl ⟨a, v, ⟨ns, ha⟩, ih a v⟩
      next ns e v he =>
        obtain ⟨⟨a, ha⟩, -⟩ := answer_yields ⟨ns, he⟩
        cases ha

end World

end SchemaDecl
