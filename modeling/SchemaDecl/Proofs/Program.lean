import SchemaDecl.Program
import SchemaDecl.Proofs.Generation.Outcome
import SchemaDecl.Proofs.Registry.Lock
import SchemaDecl.Proofs.Storage.Saving

/-! What a command leaves behind. To generate modules is to plan first and to write afterwards: all that
can fail in a way that the user is told of is done before the first file is touched. When it returns,
every definition has its module or was told to be skipped, and the next run will find the registry. -/

namespace SchemaDecl.Program

open Work (Within within_pure within_query within_done within_fail within_say within_ofRun within_forM)
open World (Ends Tells ends_bind_ok ends_pure)

/-! ### Looking -/

theorem looks_loadProject (directory : Path) : (Settings.loadProject directory).Looks := by
  refine (Storage.looks_isFile _).bind fun b => ?_
  cases b with
  | false => exact within_pure _
  | true =>
    refine (Storage.looks_readJson _ _).bind fun v => ?_
    cases v <;> trivial

theorem looks_resolve (directory : Path) (o : Settings.Overrides) :
    (Settings.resolve directory o).Looks :=
  (looks_loadProject directory).bind fun _ => (within_query trivial).bind fun _ =>
    (within_query trivial).bind fun _ => within_done fun _ _ => trivial

theorem looks_load (s : Source) : s.load.Looks := by
  cases s with
  | input =>
    refine (within_query trivial).bind fun text => ?_
    split
    next => exact within_fail trivial
    next => exact within_done fun _ _ => trivial
  | web url =>
    refine (within_query trivial).bind fun r => ?_
    rcases r with e | r
    · cases e <;> trivial
    · exact within_done fun _ _ => trivial
  | file path =>
    refine (Storage.looks_isFile _).bind fun b => ?_
    cases b with
    | false => exact within_fail trivial
    | true =>
      refine (Storage.looks_readText _).bind_attempt fun r _ => ?_
      rcases r with f | text
      · exact within_fail trivial
      · dsimp only
        split
        next => exact within_fail trivial
        next => exact within_done fun _ _ => trivial

theorem looks_loadDocument (source : String) : (loadDocument source).Looks :=
  (looks_load _).bind fun _ => within_done fun _ _ => trivial

/-! ### Planning and writing -/

/-- What a run is made of and what is to be written. -/
structure Plan where
  settings : Settings
  doc : Document
  previous : Option (List Registry.Entry)
  result : Generation

/-- The directory that is written to. -/
def Plan.out (p : Plan) : Path :=
  Path.ofText p.settings.outputDir

/-- The plan for a document, after the last run. -/
def planFor (settings : Settings) (doc : Document) (previous : Option (List Registry.Entry)) :
    Work Plan := do
  let result ← Work.ofRun (Generation.run doc settings (previous.getD []))
  return { settings, doc, previous, result }

/-- The plan of a run in a directory. -/
def planIn (here : Path) (source : String) (o : Settings.Overrides) : Work Plan := do
  let settings ← Settings.resolve here o
  let doc ← loadDocument source
  let previous ← Storage.loadLock (Path.ofText settings.outputDir)
  match previous with
  | some es =>
    Work.say (.debug ("Loaded " ++ toString es.length ++ " registry entries from previous run"))
  | none => pure ()
  planFor settings doc previous

def plan (source : String) (o : Settings.Overrides) : Work Plan := do
  let here : Path ← Work.query .workingDirectory
  planIn here source o

/-- What is told of a definition that is skipped. -/
def skipped (name : Name) (err : SchemaError) : Notice :=
  .warning ("Skipped " ++ name.display ++ ": " ++ err.message)

def warn (f : Name × SchemaError) : Work Unit :=
  Work.say (skipped f.1 f.2)

/-- Writes what was planned and tells of it. -/
def Plan.write (p : Plan) : Work Int := do
  let written ← Storage.save p.out p.result
  p.result.failures.forM warn
  Work.say (.success ("Generated " ++ toString p.result.declarations.length ++ " of " ++
    toString p.doc.entries.length ++ " schemas into " ++ p.out.text ++ " (" ++
    toString written.length ++ " files changed)"))
  return if p.result.failures.isEmpty then 0 else FailureKind.document.exitCode

theorem planFor_bind_write (settings : Settings) (doc : Document)
    (previous : Option (List Registry.Entry)) :
    planFor settings doc previous >>= Plan.write =
      Work.ofRun (Generation.run doc settings (previous.getD [])) >>= fun result =>
        ({ settings, doc, previous, result } : Plan).write := by
  rw [planFor, bind_assoc]
  rfl

theorem generate_eq (source : String) (o : Settings.Overrides) :
    generate source o = plan source o >>= Plan.write := by
  refine congrArg (Work.ask .workingDirectory) (funext fun here => ?_)
  change _ = planIn here source o >>= Plan.write
  unfold planIn
  rw [bind_assoc]
  refine bind_congr fun settings => ?_
  rw [bind_assoc]
  refine bind_congr fun doc => ?_
  rw [bind_assoc]
  refine bind_congr fun previous => ?_
  have hplan := (planFor_bind_write settings doc previous).symm
  cases previous with
  | none => exact hplan
  | some es => exact congrArg (Work.tell _) hplan

theorem looks_plan (source : String) (o : Settings.Overrides) : (plan source o).Looks := by
  refine (within_query trivial).bind fun here => (looks_resolve _ o).bind fun settings =>
    (looks_loadDocument source).bind fun doc => (Storage.looks_loadLock _).bind fun previous => ?_
  have hplan : (planFor settings doc previous).Looks :=
    (within_ofRun fun _ _ => trivial).bind fun _ => within_pure _
  cases previous <;> exact hplan

theorem firm_write (p : Plan) : p.write.Firm :=
  (Storage.firm_save p.out p.result).bind fun _ =>
    (within_forM (fun _ => within_say _) _).bind fun _ => (within_say _).bind fun _ => within_pure _

/-! ### What a run leaves behind -/

section World

variable {σ : Type} {carry : Transport σ} {w w' v : World σ} {source : String}
  {o : Settings.Overrides} {p : Plan}

/-- The plan is made of what was found in a world, and this leaves another one. -/
structure Planned (carry : Transport σ) (source : String) (o : Settings.Overrides) (w : World σ)
    (p : Plan) (v : World σ) : Prop where
  found : ∃ v₁ v₂, Ends carry (Settings.resolve w.directory o) w (.ok p.settings) v₁ ∧
    Ends carry (loadDocument source) v₁ (.ok p.doc) v₂ ∧
    Ends carry (Storage.loadLock p.out) v₂ (.ok p.previous) v
  made : (Generation.run p.doc p.settings (p.previous.getD [])).result = .ok p.result
  files : v.files = w.files

theorem ends_planFor {settings : Settings} {doc : Document} {previous : Option (List Registry.Entry)} :
    Ends carry (planFor settings doc previous) w (.ok p) w' ↔
      w' = w ∧ p.settings = settings ∧ p.doc = doc ∧ p.previous = previous ∧
        (Generation.run doc settings (previous.getD [])).result = .ok p.result := by
  constructor
  · intro h
    obtain ⟨g, u, hrun, hplan⟩ := ends_bind_ok.1 h
    obtain ⟨hg, rfl⟩ := World.ends_ofRun.1 hrun
    obtain ⟨rfl, rfl⟩ := ends_pure.1 hplan
    exact ⟨rfl, rfl, rfl, rfl, hg.symm⟩
  · rintro ⟨rfl, rfl, rfl, rfl, hg⟩
    exact ends_bind_ok.2 ⟨_, _, World.ends_ofRun.2 ⟨hg.symm, rfl⟩, ends_pure.2 ⟨rfl, rfl⟩⟩

/-- Once all is found that it needs, a plan is made if the run on it returns, and only then. -/
theorem ends_plan : Ends carry (plan source o) w (.ok p) v ↔ Planned carry source o w p v := by
  constructor
  · intro h
    have hfiles := World.files_of_looks (looks_plan source o) h
    obtain ⟨here, u, hhere, h₁⟩ := ends_bind_ok.1 h
    obtain ⟨ns, hu⟩ := World.ends_query hhere
    cases hu
    obtain ⟨settings, v₁, hsettings, h₂⟩ := ends_bind_ok.1 h₁
    obtain ⟨doc, v₂, hdoc, h₃⟩ := ends_bind_ok.1 h₂
    obtain ⟨previous, v₃, hprevious, h₄⟩ := ends_bind_ok.1 h₃
    have hplan : Ends carry (planFor settings doc previous) v₃ (.ok p) v := by
      cases previous with
      | none => exact h₄
      | some es => exact World.ends_tell.1 h₄
    obtain ⟨rfl, rfl, rfl, rfl, hmade⟩ := ends_planFor.1 hplan
    exact ⟨⟨v₁, v₂, hsettings, hdoc, hprevious⟩, hmade, hfiles⟩
  · rintro ⟨⟨v₁, v₂, hsettings, hdoc, hprevious⟩, hmade, -⟩
    have hplan : Ends carry (planFor p.settings p.doc p.previous) v (.ok p) v :=
      ends_planFor.2 ⟨rfl, rfl, rfl, rfl, hmade⟩
    have hhere : Ends carry (Work.query .workingDirectory) w (.ok w.directory) w :=
      World.ends_ask_iff.2 ⟨w.directory, w, ⟨[], rfl⟩, ends_pure.2 ⟨rfl, rfl⟩⟩
    refine ends_bind_ok.2 ⟨_, w, hhere, ends_bind_ok.2 ⟨_, v₁, hsettings,
      ends_bind_ok.2 ⟨_, v₂, hdoc, ends_bind_ok.2 ⟨_, v, hprevious, ?_⟩⟩⟩⟩
    cases hp : p.previous <;> rw [hp] at hplan
    · exact hplan
    · exact World.ends_tell.2 hplan

theorem ends_forM_warn {fs : List (Name × SchemaError)} {r : Except Fault Unit} :
    Ends carry (fs.forM warn) w r w' ↔ r = .ok () ∧ w' = w := by
  induction fs with
  | nil => exact World.ends_done
  | cons f fs ih => exact World.ends_tell.trans ih

theorem tells_forM_warn {fs : List (Name × SchemaError)} {f : Name × SchemaError} (hf : f ∈ fs)
    {k : Unit → Work Int} :
    Tells carry (fs.forM warn >>= k) w (skipped f.1 f.2) := by
  induction fs with
  | nil => cases hf
  | cons f' fs ih =>
    refine World.tells_tell.2 ?_
    rcases List.mem_cons.1 hf with rfl | hf
    · exact Or.inl rfl
    · exact Or.inr (ih hf)

/-- The exit code of a plan that was saved. -/
def Plan.code (p : Plan) : Int :=
  if p.result.failures.isEmpty then 0 else 7

theorem ends_write {code : Int} :
    Ends carry p.write w (.ok code) w' ↔
      (∃ written, Ends carry (Storage.save p.out p.result) w (.ok written) w') ∧ code = p.code := by
  constructor
  · intro h
    obtain ⟨written, u, hsave, h₁⟩ := ends_bind_ok.1 h
    obtain ⟨⟨⟩, u', hwarn, h₂⟩ := ends_bind_ok.1 h₁
    obtain ⟨-, rfl⟩ := ends_forM_warn.1 hwarn
    obtain ⟨rfl, rfl⟩ := ends_pure.1 (World.ends_tell.1 h₂)
    exact ⟨⟨written, hsave⟩, rfl⟩
  · rintro ⟨⟨written, hsave⟩, rfl⟩
    exact ends_bind_ok.2 ⟨written, w', hsave, ends_bind_ok.2 ⟨(), w', ends_forM_warn.2 ⟨rfl, rfl⟩,
      World.ends_tell.2 (ends_pure.2 ⟨rfl, rfl⟩)⟩⟩

/-- Everything that was skipped is told once the plan is saved. -/
theorem tells_write {written : List Path}
    (hsave : Ends carry (Storage.save p.out p.result) w (.ok written) w') {f : Name × SchemaError}
    (hf : f ∈ p.result.failures) : Tells carry p.write w (skipped f.1 f.2) :=
  World.tells_bind hsave (tells_forM_warn hf)

theorem ends_generate {code : Int} :
    Ends carry (generate source o) w (.ok code) w' ↔ ∃ p v, Planned carry source o w p v ∧
      (∃ written, Ends carry (Storage.save p.out p.result) v (.ok written) w') ∧ code = p.code := by
  rw [generate_eq, ends_bind_ok]
  exact exists_congr fun p => exists_congr fun v => and_congr ends_plan ends_write

/-! ### Exit codes -/

theorem ends_concluded_code {x : Work Int} {code : Int} (h : Ends carry x w (.ok code) w') :
    Ends carry (concluded x) w (.ok code) w' :=
  ends_bind_ok.2 ⟨_, w', World.ends_attempt h, ends_pure.2 ⟨rfl, rfl⟩⟩

theorem ends_concluded_failure {x : Work Int} {f : Failure}
    (h : Ends carry x w (.error (.failure f)) w') : Ends carry (concluded x) w (.ok f.exitCode) w' :=
  ends_bind_ok.2 ⟨_, w', World.ends_attempt h, World.ends_tell.2 (ends_pure.2 ⟨rfl, rfl⟩)⟩

/-- What comes of a definition in a plan. -/
def Plan.outcome (p : Plan) (x : Name × Definition) : Except Fault (Except SchemaError Module) :=
  Generation.declare p.doc p.result.registry (Generation.emitterOf p.settings) x.1 x.2

/-- A definition has no module in the plan. -/
def Plan.Skips (p : Plan) : Prop :=
  ∃ x ∈ p.doc.entries, ∃ err, p.outcome x = .ok (.error err)

theorem Planned.failures_ne_nil (h : Planned carry source o w p v) :
    p.result.failures ≠ [] ↔ p.Skips := by
  constructor
  · intro hne
    obtain ⟨⟨name, err⟩, hmem⟩ := List.exists_mem_of_ne_nil _ hne
    obtain ⟨d, hd, herr⟩ := (Generation.mem_failures_iff h.made).1 hmem
    exact ⟨(name, d), hd, err, herr⟩
  · rintro ⟨⟨name, d⟩, hd, err, herr⟩
    exact List.ne_nil_of_mem ((Generation.mem_failures_iff h.made).2 ⟨d, hd, herr⟩)

theorem Planned.code_iff (h : Planned carry source o w p v) :
    (p.code = 7 ↔ p.Skips) ∧ (p.code = 0 ↔ ¬p.Skips) := by
  rw [← h.failures_ne_nil, Plan.code]
  cases p.result.failures <;> simp

/-- If generating modules ends in a failure, no file was touched, and the exit code is that of the
failure. It returns exactly when the plan for what was found could be saved; then every definition has
its module in the plan, or an error for which it was told to be skipped, the next run finds the registry
of this one, and the exit code tells whether something was skipped. -/
theorem generate_all_or_nothing (carry : Transport σ) (w w' : World σ) (source : String)
    (o : Settings.Overrides) (report : Report) (hw : w.directory.absolute = true) :
    (∀ f, Ends carry (generate source o) w (.error (.failure f)) w' →
      w'.files = w.files ∧
        Ends carry (work (some (.run report (.generate source o)))) w (.ok f.exitCode) w') ∧
    (∀ code, Ends carry (generate source o) w (.ok code) w' ↔ ∃ p v, Planned carry source o w p v ∧
      (∃ written, Ends carry (Storage.save p.out p.result) v (.ok written) w') ∧ code = p.code) ∧
    ∀ p v written, Planned carry source o w p v →
      Ends carry (Storage.save p.out p.result) v (.ok written) w' →
      Ends carry (work (some (.run report (.generate source o)))) w (.ok p.code) w' ∧
      (∀ x ∈ p.doc.entries, (∃ m ∈ p.result.declarations, p.outcome x = .ok (.ok m)) ∨
        ∃ err, p.outcome x = .ok (.error err) ∧
          Tells carry (generate source o) w (skipped x.1 err)) ∧
      Ends carry (Storage.loadLock p.out) w' (.ok (some p.result.registry.entries)) w' ∧
      Registry.ofEntries p.result.registry.entries = .ok p.result.registry ∧
      (p.code = 7 ↔ p.Skips) ∧ (p.code = 0 ↔ ¬p.Skips) := by
  refine ⟨fun f h => ⟨?_, ends_concluded_failure h⟩, fun code => ends_generate,
    fun p v written hp hsave => ⟨?_, fun x hx => ?_, ?_, (Registry.ofLock_toLock _).2, hp.code_iff⟩⟩
  · rw [generate_eq] at h
    exact World.files_of_failure (looks_plan source o) firm_write h
  · exact ends_concluded_code (ends_generate.2 ⟨p, v, hp, ⟨written, hsave⟩, rfl⟩)
  · rcases (Generation.outcomes_of_run hp.made).module_or_failure hx with hm | ⟨err, hmem, herr⟩
    · exact Or.inl hm
    · have htold := tells_write hsave hmem
      rw [generate_eq]
      exact Or.inr ⟨err, herr, World.tells_bind (ends_plan.2 hp) htold⟩
  · have hv : v.directory.absolute = true := by
      rwa [World.directory_of_ends (ends_plan.2 hp)]
    exact Storage.loadLock_of_save hv hsave

end World

/-- A world whose input is a document with a definition that has no type. -/
def halved : World Unit where
  input := "\x7b\"A\": \x7b\"type\": \"string\"\x7d, \"B\": \x7b\x7d\x7d"
  net := ()

def keeping (keepGoing : Bool) : Settings.Overrides where
  keepGoing := some keepGoing

/-- The code of the failure that work ends in there, or else the code that it returns. -/
def codeOf (x : Work Int) : Option (Int ⊕ Int) :=
  match (World.perform Storage.offline x halved).1.result with
  | .error (.failure f) => some (.inl f.exitCode)
  | .error _ => none
  | .ok code => some (.inr code)

theorem exists_failure {x : Work Int} {code : Int} (h : codeOf x = some (.inl code)) :
    ∃ f w', Ends Storage.offline x halved (.error (.failure f)) w' ∧ f.exitCode = code := by
  unfold codeOf at h
  split at h
  next f hf =>
    cases h
    exact ⟨f, _, World.ends_of_result hf, rfl⟩
  next => cases h
  next => cases h

theorem exists_code {x : Work Int} {code : Int} (h : codeOf x = some (.inr code)) :
    ∃ w', Ends Storage.offline x halved (.ok code) w' := by
  unfold codeOf at h
  split at h
  next => cases h
  next => cases h
  next hcode =>
    cases h
    exact ⟨_, World.ends_of_result hcode⟩

theorem generate_all_or_nothing_halved :
    (∃ w', w'.files = halved.files ∧
      Ends Storage.offline (work (some (.run {} (.generate "-" (keeping false))))) halved (.ok 7) w') ∧
    ∃ (p : Plan) (w' : World Unit), p.Skips ∧
      Ends Storage.offline (work (some (.run {} (.generate "-" (keeping true))))) halved (.ok 7) w' ∧
      Ends Storage.offline (Storage.loadLock p.out) w' (.ok (some p.result.registry.entries)) w' := by
  constructor
  · obtain ⟨f, w', hends, hf⟩ := exists_failure
      (show codeOf (generate "-" (keeping false)) = some (.inl 7) by decide +kernel)
    obtain ⟨hfiles, hwork⟩ :=
      (generate_all_or_nothing Storage.offline halved w' "-" (keeping false) {} rfl).1 f hends
    exact ⟨w', hfiles, hf ▸ hwork⟩
  · obtain ⟨w', hends⟩ := exists_code
      (show codeOf (generate "-" (keeping true)) = some (.inr 7) by decide +kernel)
    obtain ⟨-, hreturns, hsaved⟩ :=
      generate_all_or_nothing Storage.offline halved w' "-" (keeping true) {} rfl
    obtain ⟨p, v, hp, ⟨written, hsave⟩, hcode⟩ := (hreturns 7).1 hends
    obtain ⟨hwork, -, hlock, -, hskips, -⟩ := hsaved p v written hp hsave
    exact ⟨p, w', hskips.1 hcode.symm, hcode ▸ hwork, hlock⟩

end SchemaDecl.Program
