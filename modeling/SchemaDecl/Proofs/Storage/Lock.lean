import SchemaDecl.Proofs.Registry.Lock
import SchemaDecl.Proofs.World
import SchemaDecl.Storage

/-! The file that keeps the registry of a run. Whatever bytes it holds, reading it ends with entries
that repeat nothing, with none if there is no file, or with a failure that the user is told of; so a
document with texts for names can always be given a registry after it. The bytes that a registry was
kept as give its entries back. -/

namespace SchemaDecl.Storage

open World (Ends ends_done ends_ask_kind ends_ask_read ends_ofRun)

/-! ### Reading as one question -/

theorem done_bind_done {α β : Type} (x : Except Fault α) (g : α → Except Fault β) :
    (Work.done x >>= fun a => Work.done (g a)) = Work.done (x >>= g) := by
  cases x <;> rfl

/-- The text that the answer to a question for a file is read as. -/
def textOf (a : Except FileFault (List UInt8)) : Except Fault String := do
  let bytes ← a.mapError Fault.file
  let text ← (Text.decode bytes).mapError Fault.notUtf8
  return Text.unifyNewlines text

theorem readText_eq (p : Path) : readText p = .ask (.read p) fun a => .done (textOf a) := by
  refine congrArg (Work.ask _) (funext fun a => ?_)
  change (Work.done (a.mapError Fault.file) >>= fun bytes =>
    Work.done ((Text.decode bytes).mapError Fault.notUtf8) >>= fun text =>
      Work.done (.ok (Text.unifyNewlines text))) = _
  simp only [done_bind_done]
  rfl

/-- The value that the answer spells. -/
def valueOf (unreadable : String → Fault) (a : Except FileFault (List UInt8)) : Except Fault Value :=
  match textOf a with
  | .error (.notUtf8 e) => .error (unreadable e.message)
  | .error f => .error f
  | .ok text => (Json.read text).mapError fun e => unreadable e.message

theorem readJson_eq (p : Path) (unreadable : String → Fault) :
    readJson p unreadable = .ask (.read p) fun a => .done (valueOf unreadable a) := by
  rw [readJson, readText_eq]
  refine congrArg (Work.ask _) (funext fun a => ?_)
  dsimp only
  unfold valueOf
  rcases textOf a with f | text
  · cases f <;> rfl
  · rfl

/-- The entries that the answer to the question for the file of a registry gives. -/
def entriesOf (p : Path) (a : Except FileFault (List UInt8)) :
    Except Fault (Option (List Registry.Entry)) := do
  let v ← valueOf (fun reason => .failure (.config (.unreadableLock p.text reason))) a
  let entries ← (Registry.ofLock v).mapError fun e => Fault.failure (.config e)
  return some entries

/-- Looking for the registry of the last run asks what is at its path, and then for the file there. -/
theorem loadLock_eq (directory : Path) :
    loadLock directory = .ask (.kind (directory.entry lockName)) fun k =>
      match k with
      | .error e => .done (.error (.file e))
      | .ok k =>
        if k = some .file then
          .ask (.read (directory.entry lockName)) fun a =>
            .done (entriesOf (directory.entry lockName) a)
        else .done (.ok none) := by
  rw [loadLock, readJson_eq]
  refine congrArg (Work.ask _) (funext fun k => ?_)
  rcases k with e | k
  · rfl
  by_cases hk : k = some .file
  · subst hk
    refine congrArg (Work.ask _) (funext fun a => ?_)
    change (Work.done (valueOf _ a) >>= fun v =>
      Work.done ((Registry.ofLock v).mapError fun e => Fault.failure (.config e)) >>= fun entries =>
        Work.done (.ok (some entries))) = _
    simp only [done_bind_done]
    rfl
  · dsimp only
    rw [if_neg hk]
    rcases k with _ | k | k
    · rfl
    · exact absurd rfl hk
    · rfl

/-! ### Files that hold a registry -/

section World

variable {σ : Type} {carry : Transport σ} {w w' : World σ} {directory : Path}

/-- What the file for the registry of a directory holds in a world, whatever it is. -/
def heldLock (w : World σ) (directory : Path) : Except Fault (Option (List Registry.Entry)) :=
  match w.files.kind (w.place (directory.entry lockName)) with
  | .error e => .error (.file e)
  | .ok k =>
    if k = some .file then
      entriesOf (directory.entry lockName) (w.files.read (w.place (directory.entry lockName)))
    else .ok none

theorem ends_loadLock {r : Except Fault (Option (List Registry.Entry))} :
    Ends carry (loadLock directory) w r w' ↔ r = heldLock w directory ∧ w' = w := by
  rw [loadLock_eq, heldLock]
  refine ends_ask_kind.trans ?_
  cases w.files.kind (w.place (directory.entry lockName)) with
  | error e => exact ends_done
  | ok k =>
    by_cases hk : k = some .file
    · simp only [if_pos hk]
      exact ends_ask_read.trans ends_done
    · simp only [if_neg hk]
      exact ends_done

theorem exists_read_of_kind {fs : Files} {p : Path} (h : fs.kind p = .ok (some .file)) :
    ∃ bytes, fs.read p = .ok bytes := by
  rw [Files.kind] at h
  split at h
  next => cases h
  next => cases h
  next => cases h
  next => cases h
  next place hp =>
    rw [Except.ok.injEq, Option.map_eq_some_iff] at h
    obtain ⟨n, hn, hfile⟩ := h
    cases n with
    | directory => cases hfile
    | file bytes => exact ⟨bytes, Files.read_of_locate hp hn⟩

theorem kind_of_read {fs : Files} {p : Path} {bytes : List UInt8} (h : fs.read p = .ok bytes) :
    fs.kind p = .ok (some .file) := by
  obtain ⟨place, hp, hn⟩ := Files.read_eq_ok h
  rw [Files.kind, hp]
  dsimp only
  rw [hn]
  rfl

theorem entriesOf_eq_ok {p : Path} {a : Except FileFault (List UInt8)}
    {r : Option (List Registry.Entry)} (h : entriesOf p a = .ok r) : ∃ items es, r = some es ∧ Registry.Records items es := by
  obtain ⟨v, -, h⟩ := bind_eq_ok h
  obtain ⟨es, hes, h⟩ := bind_eq_ok h
  cases h
  obtain ⟨items, -, hr⟩ := Registry.ofLock_eq_ok_iff.1 (mapError_eq_ok.1 hes)
  exact ⟨items, es, rfl, hr⟩

/-- Whatever stands against bytes is told to the user. -/
theorem entriesOf_eq_error {p : Path} {bytes : List UInt8} {f : Fault}
    (h : entriesOf p (.ok bytes) = .error f) : ∃ e, f = .failure (.config e) := by
  rcases bind_eq_error h with h | ⟨v, -, h⟩
  · -- bytes that are no text, and texts that spell nothing
    unfold valueOf at h
    split at h
    next =>
      cases h
      exact ⟨_, rfl⟩
    next g hno ht =>
      rcases bind_eq_error ht with ht | ⟨_, -, ht⟩
      · cases ht
      rcases bind_eq_error ht with ht | ⟨_, -, ht⟩
      · obtain ⟨e, -, he⟩ := mapError_eq_error ht
        exact absurd he.symm (hno e)
      · cases ht
    next =>
      obtain ⟨e, -, rfl⟩ := mapError_eq_error h
      exact ⟨_, rfl⟩
  · rcases bind_eq_error h with h | ⟨es, -, h⟩
    · obtain ⟨e, -, rfl⟩ := mapError_eq_error h
      exact ⟨e, rfl⟩
    · cases h

/-- The bytes that a registry was kept as give its entries back. -/
theorem entriesOf_encode {r : Registry} {text : String} (h : r.lockText = .ok text) (p : Path) :
    entriesOf p (.ok (Text.encode text)) = .ok (some r.entries) := by
  obtain ⟨hread, hunify⟩ := Registry.read_lockText h
  have htext : textOf (.ok (Text.encode text)) = .ok text := by
    simp only [textOf, Except.mapError, bind, Except.bind, Text.decode_encode]
    exact congrArg Except.ok hunify
  rw [entriesOf, valueOf, htext]
  dsimp only
  rw [hread]
  simp only [Except.mapError, bind, Except.bind, r.ofLock_toLock.1]
  rfl

/-- Looking for the registry of the last run finds entries that repeat nothing, or no file; else the
user is told what stands against the file, unless the path cannot be looked at. -/
theorem heldLock_cases (w : World σ) (directory : Path) :
    (∃ e, w.files.kind (w.place (directory.entry lockName)) = .error e ∧
      heldLock w directory = .error (.file e)) ∨
    (∃ e, heldLock w directory = .error (.failure (.config e))) ∨
    heldLock w directory = .ok none ∨
    ∃ items es, heldLock w directory = .ok (some es) ∧ Registry.Records items es := by
  cases hk : w.files.kind (w.place (directory.entry lockName)) with
  | error e => exact Or.inl ⟨e, rfl, by rw [heldLock, hk]⟩
  | ok k =>
    right
    rw [heldLock, hk]
    dsimp only
    by_cases hfile : k = some .file
    · rw [if_pos hfile]
      subst hfile
      obtain ⟨bytes, hread⟩ := exists_read_of_kind hk
      rw [hread]
      cases he : entriesOf (directory.entry lockName) (.ok bytes) with
      | error f =>
        obtain ⟨e, rfl⟩ := entriesOf_eq_error he
        exact Or.inl ⟨e, rfl⟩
      | ok r =>
        obtain ⟨items, es, rfl, hr⟩ := entriesOf_eq_ok he
        exact Or.inr (Or.inr ⟨items, es, rfl, hr⟩)
    · rw [if_neg hfile]
      exact Or.inr (Or.inl rfl)

end World

/-! ### Registries after earlier ones -/

/-- The registry of a document after the last run into a directory. -/
def registryAfter (directory : Path) (d : Document) : Work Registry := do
  let previous ← loadLock directory
  Work.ofRun (Registry.build d (previous.getD []))

/-- The record of a registry gives it back; a value is accepted exactly if it is a list of objects that
describe entries of which no column repeats anything, and otherwise its first flaw is told; so whatever
the file of an earlier registry holds, a document with texts for names is given a registry after it or
the user is told what stands against the file. -/
theorem lock_format {σ : Type} (carry : Transport σ) (w : World σ) (directory : Path) {d : Document}
    (hn : d.Textual) :
    (∀ r : Registry, Registry.ofLock r.toLock = .ok r.entries ∧ Registry.ofEntries r.entries = .ok r) ∧
    (∀ v es, Registry.ofLock v = .ok es ↔ ∃ items, v = .list items ∧ Registry.Records items es) ∧
    (∀ v, (¬∃ items es, v = .list items ∧ Registry.Records items es) →
      ∃ e, Registry.ofLock v = .error e ∧ Registry.Flaw v e) ∧
    ∃ r, Ends carry (registryAfter directory d) w r w ∧
      ((∃ e, w.files.kind (w.place (directory.entry lockName)) = .error e ∧ r = .error (.file e)) ∨
        (∃ e, r = .error (.failure (.config e))) ∨ ∃ registry, r = .ok registry) := by
  refine ⟨Registry.ofLock_toLock, fun v es => Registry.ofLock_eq_ok_iff, fun v hv => ?_, ?_⟩
  · rcases Registry.records_or_flaw v with h | ⟨e, he⟩
    · exact absurd h hv
    · exact ⟨e, he.ofLock, he⟩
  have hlock : Ends carry (loadLock directory) w (heldLock w directory) w := ends_loadLock.2 ⟨rfl, rfl⟩
  have hfault : ∀ f, heldLock w directory = .error f →
      Ends carry (registryAfter directory d) w (.error f) w := fun f hf =>
    World.ends_bind.2 (Or.inr ⟨f, hf ▸ hlock, rfl⟩)
  have hbuild : ∀ previous, heldLock w directory = .ok previous →
      ((previous.getD []).map Registry.Entry.identifier).Nodup →
      ((previous.getD []).map Registry.Entry.discriminant).Nodup →
      ∃ registry, Ends carry (registryAfter directory d) w (.ok registry) w := by
    intro previous hp hi hd
    obtain ⟨registry, hr⟩ := Registry.exists_build hn hi hd
    exact ⟨registry, World.ends_bind.2 (Or.inl ⟨previous, w, hp ▸ hlock, ends_ofRun.2 ⟨hr.symm, rfl⟩⟩)⟩
  rcases heldLock_cases w directory with ⟨e, hk, h⟩ | ⟨e, h⟩ | h | ⟨items, es, h, hr⟩
  · exact ⟨_, hfault _ h, Or.inl ⟨e, hk, rfl⟩⟩
  · exact ⟨_, hfault _ h, Or.inr (Or.inl ⟨e, rfl⟩)⟩
  · obtain ⟨registry, hb⟩ := hbuild none h .nil .nil
    exact ⟨_, hb, Or.inr (Or.inr ⟨registry, rfl⟩)⟩
  · obtain ⟨registry, hb⟩ := hbuild (some es) h hr.identifiers_nodup hr.discriminants_nodup
    exact ⟨_, hb, Or.inr (Or.inr ⟨registry, rfl⟩)⟩

/-- A world at whose top a registry with one entry was kept. -/
def shelf : World Unit :=
  { files := ⟨[([lockName], .file
      (Text.encode "[\x7b\"identifier\": \"Tom\", \"discriminant\": \"cat\"\x7d]"))]⟩
    net := () }

def offline : Transport Unit :=
  fun _ => Act.fail (.transport ⟨.connect, ""⟩)

/-- A document with one discriminant. -/
def cats : Document :=
  ⟨[(.text "Cat", .tagged "cat")]⟩

theorem lock_format_shelf :
    cats.Textual ∧ ∃ registry, Ends offline (registryAfter ⟨true, []⟩ cats) shelf (.ok registry) shelf ∧
      registry.entries = [⟨"Tom", "cat"⟩] := by
  have hn : cats.Textual := by simp [cats]
  have hresult : (World.perform offline (registryAfter ⟨true, []⟩ cats) shelf).1.result.toOption.map
      Registry.entries = some [⟨"Tom", "cat"⟩] := by
    decide +kernel
  obtain ⟨r, ⟨notices, hr⟩, hcases⟩ := (lock_format offline shelf ⟨true, []⟩ hn).2.2.2
  rw [hr] at hresult
  rcases hcases with ⟨e, -, rfl⟩ | ⟨e, rfl⟩ | ⟨registry, rfl⟩
  · cases hresult
  · cases hresult
  · exact ⟨hn, registry, ⟨notices, hr⟩, Option.some.inj hresult⟩

end SchemaDecl.Storage
