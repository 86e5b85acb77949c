import SchemaDecl.Proofs.Storage.Faults
import SchemaDecl.Proofs.Storage.Replacing

/-! What is on disk when a run was saved. Modules with file names of their own do not get in each
other's way: each is written, or left as it is because its file reads as its text already, and neither
the modules after it nor the registry touch that file again. A file is read as a text with line feeds
alone, while modules are written as they are; so what is left has not always the bytes of the module,
and a file that is no text at all ends the work. -/

namespace SchemaDecl.Storage

open SchemaDecl.Path (Plain Visible)
open World (Ends ends_bind ends_bind_ok ends_done ends_pure ends_ofExcept)

variable {σ : Type} {carry : Transport σ} {w w' : World σ}

/-! ### Texts in files -/

/-- Bytes that a text is written as, or that are read as the text. -/
def Spells (bytes : List UInt8) (text : String) : Prop :=
  bytes = Text.encode text ∨ ∃ s, Text.decode bytes = .ok s ∧ Text.unifyNewlines s = text

/-- Whether bytes are read as a text. -/
def readsAs (bytes : List UInt8) (text : String) : Bool :=
  (Text.decode bytes).toOption.any fun s => Text.unifyNewlines s == text

theorem readsAs_iff {bytes : List UInt8} {text : String} :
    readsAs bytes text ↔ ∃ s, Text.decode bytes = .ok s ∧ Text.unifyNewlines s = text := by
  rw [readsAs]
  cases Text.decode bytes with
  | error e => simp [Except.toOption]
  | ok s => simp [Except.toOption]

/-- What was written reads as the text exactly if the text has no carriage returns. -/
theorem readsAs_encode (text : String) : readsAs (Text.encode text) text ↔ '\r' ∉ text.toList := by
  rw [readsAs_iff, Text.decode_encode, ← Text.unifyNewlines_eq_self_iff]
  constructor
  · rintro ⟨s, hs, ht⟩
    cases hs
    exact ht
  · exact fun h => ⟨text, rfl, h⟩

theorem not_mem_of_readsAs {bytes : List UInt8} {text : String} (h : readsAs bytes text) :
    '\r' ∉ text.toList := by
  obtain ⟨s, -, rfl⟩ := readsAs_iff.1 h
  rw [Text.unifyNewlines, String.toList_ofList]
  exact Text.not_mem_unifyNewlinesList _

/-- To compare a file with a text is to ask for what is at its path, and then for the file. -/
theorem holds_eq (p : Path) (text : String) :
    holds p text = .ask (.kind p) fun k =>
      match k with
      | .error e => .done (.error (.file e))
      | .ok k =>
        if k = some .file then .ask (.read p) fun a => .done ((textOf a).map (· == text))
        else .done (.ok false) := by
  rw [holds, readText_eq]
  refine congrArg (Work.ask _) (funext fun k => ?_)
  rcases k with e | k
  · rfl
  by_cases hk : k = some .file
  · subst hk
    refine congrArg (Work.ask _) (funext fun a => ?_)
    change (Work.done (textOf a)).andThen _ = _
    cases textOf a <;> rfl
  · dsimp only
    rw [if_neg hk]
    rcases k with _ | k | k
    · rfl
    · exact absurd rfl hk
    · rfl

/-! ### Files of modules -/

/-- What is in the file of a module in a directory. -/
def found (w : World σ) (place : List String) (m : Module) : Option (List UInt8) :=
  match w.files.get? (place ++ [m.filename]) with
  | some (.file bytes) => some bytes
  | _ => none

/-- The file of a module is a text, if it is there. -/
def Legible (w : World σ) (place : List String) (m : Module) : Prop :=
  ∀ bytes, found w place m = some bytes → ∃ s, Text.decode bytes = .ok s

/-- Whether the file of a module reads as its text. -/
def current (w : World σ) (place : List String) (m : Module) : Bool :=
  (found w place m).any fun bytes => readsAs bytes m.source

theorem found_eq_some {place : List String} {m : Module} {bytes : List UInt8} :
    found w place m = some bytes ↔ w.files.get? (place ++ [m.filename]) = some (.file bytes) := by
  rw [found]
  split
  next h => simp [h]
  next h => simpa using fun he => h bytes he

/-- Modules whose files are as they were are found as they were. -/
theorem found_congr {place : List String} {m : Module}
    (h : w'.files.get? (place ++ [m.filename]) = w.files.get? (place ++ [m.filename])) :
    found w' place m = found w place m := by
  rw [found, found, h]

section Module

variable {directory : Path} {place : List String} {m : Module}

/-- The path of the file of a module leads to its place. -/
def Leads (w : World σ) (directory : Path) (place : List String) (m : Module) : Prop :=
  w.files.locate (w.place (directory.entry m.filename)) = .ok (place ++ [m.filename])

theorem Leads.keeps {T : List String → Prop} (h : Leads w directory place m) (hk : World.Keeps T w w') :
    Leads w' directory place m := by
  rw [Leads, hk.place_eq]
  exact hk.files.locate h

theorem found_of_read (hd : w.Located directory place) (hn : Plain m.filename) {bytes : List UInt8}
    (hr : w.files.read (w.place (directory.entry m.filename)) = .ok bytes) :
    found w place m = some bytes ∧ Leads w directory place m := by
  obtain ⟨goal, hgoal, hf⟩ := Files.read_eq_ok hr
  obtain rfl := eq_of_locate_entry hn hd hgoal
  exact ⟨found_eq_some.2 hf, hgoal⟩

/-- Where the path of the file leads, what is found is a file. -/
theorem found_eq_none (hl : Leads w directory place m)
    (hk : w.files.kind (w.place (directory.entry m.filename)) ≠ .ok (some .file)) :
    found w place m = none := by
  rw [Option.eq_none_iff_forall_ne_some]
  intro bytes hb
  exact hk (kind_of_read (Files.read_of_locate hl (found_eq_some.1 hb)))

/-- Bytes that are a text tell by it whether the module is current; others tell that they are none. -/
theorem compared_of_found {bytes : List UInt8} (hfound : found w place m = some bytes) :
    ((∃ b, (textOf (.ok bytes)).map (· == m.source) = .ok b ∧ current w place m = b) ∧
        Legible w place m) ∨
      (∃ e, (textOf (.ok bytes)).map (· == m.source) = .error (.notUtf8 e)) ∧ ¬Legible w place m := by
  cases hdec : Text.decode bytes with
  | error e =>
    refine Or.inr ⟨⟨e, ?_⟩, fun hl => ?_⟩
    · simp only [textOf, Except.mapError, bind, Except.bind, hdec, Except.map]
    · obtain ⟨s, hs⟩ := hl bytes hfound
      rw [hdec] at hs
      cases hs
  | ok s =>
    refine Or.inl ⟨⟨Text.unifyNewlines s == m.source, ?_, ?_⟩, fun b hb => ?_⟩
    · simp only [textOf, Except.mapError, bind, Except.bind, hdec]
      rfl
    · rw [current, hfound]
      simp [readsAs, hdec, Except.toOption]
    · rw [hfound] at hb
      cases hb
      exact ⟨s, hdec⟩

/-- What comes of comparing the file of a module with its text, unless the files refuse. -/
theorem ends_holds (hd : w.Located directory place) (hn : Plain m.filename) {r : Except Fault Bool}
    (hio : ∀ e, r ≠ .error (.file e))
    (h : Ends carry (holds (directory.entry m.filename) m.source) w r w') :
    w' = w ∧
      ((r = .ok true ∧ current w place m ∧ Legible w place m ∧ Leads w directory place m) ∨
        (r = .ok false ∧ (Leads w directory place m → ¬current w place m ∧ Legible w place m)) ∨
        (∃ e, r = .error (.notUtf8 e)) ∧ ¬Legible w place m) := by
  rw [holds_eq] at h
  replace h := World.ends_ask_kind.1 h
  cases hk : w.files.kind (w.place (directory.entry m.filename)) with
  | error e =>
    rw [hk] at h
    exact absurd (ends_done.1 h).1 (hio e)
  | ok k =>
    rw [hk] at h
    dsimp only at h
    split at h
    next hfile =>
      subst hfile
      obtain ⟨bytes, hread⟩ := exists_read_of_kind hk
      obtain ⟨hfound, hleads⟩ := found_of_read hd hn hread
      replace h := World.ends_ask_read.1 h
      rw [hread] at h
      obtain ⟨rfl, rfl⟩ := ends_done.1 h
      refine ⟨rfl, ?_⟩
      rcases compared_of_found hfound with ⟨⟨b, hb, hcurrent⟩, hlegible⟩ | hnot
      · rw [hb]
        cases b with
        | true => exact Or.inl ⟨rfl, hcurrent, hlegible, hleads⟩
        | false => exact Or.inr (Or.inl ⟨rfl, fun _ => ⟨Bool.eq_false_iff.1 hcurrent, hlegible⟩⟩)
      · exact Or.inr (Or.inr hnot)
    next hfile =>
      obtain ⟨rfl, rfl⟩ := ends_done.1 h
      refine ⟨rfl, Or.inr (Or.inl ⟨rfl, fun hl => ?_⟩)⟩
      have hnone := found_eq_none hl (by rw [hk]; exact fun he => hfile (Except.ok.inj he))
      exact ⟨by simp [current, hnone], fun bytes hb => by rw [hnone] at hb; cases hb⟩

end Module

/-! ### Modules -/

/-- What a save leaves in the file of a module: what was there if it reads as the text, or else the text
as it is. -/
def left (w : World σ) (place : List String) (m : Module) : Option (List UInt8) :=
  if current w place m then found w place m else some (Text.encode m.source)

/-- The modules that a save writes. -/
def stale (w : World σ) (place : List String) (ms : List Module) : List Module :=
  ms.filter fun m => !current w place m

/-- The file of a module holds what a save leaves in it. -/
structure ModuleLeft (directory : Path) (place : List String) (w w' : World σ) (m : Module) : Prop where
  leads : Leads w' directory place m
  found : found w' place m = left w place m

/-- The places of the files of modules. -/
def placesOf (place : List String) (ms : List Module) (q : List String) : Prop :=
  ∃ m ∈ ms, q = place ++ [m.filename]

/-- Modules whose files stay as they are are legible and current as before. -/
theorem left_congr {place : List String} {m : Module} (h : found w' place m = found w place m) :
    (Legible w' place m ↔ Legible w place m) ∧ current w' place m = current w place m ∧
      left w' place m = left w place m := by
  have hcurrent : current w' place m = current w place m := by rw [current, current, h]
  exact ⟨by rw [Legible, Legible, h], hcurrent, by rw [left, left, hcurrent, h]⟩

theorem stale_congr {place : List String} {ms : List Module}
    (h : ∀ m ∈ ms, found w' place m = found w place m) : stale w' place ms = stale w place ms :=
  List.filter_congr fun m hm => by rw [(left_congr (h m hm)).2.1]

/-- How saving modules ends, unless the files refuse: with the paths of the stale ones, or at a file that
is no text. -/
inductive ModulesSaved (directory : Path) (place : List String) (ms : List Module) (w w' : World σ) :
    Except Fault (List Path) → Prop
  | done (legible : ∀ m ∈ ms, Legible w place m) (kept : ∀ m ∈ ms, ModuleLeft directory place w w' m) :
    ModulesSaved directory place ms w w'
      (.ok ((stale w place ms).map fun m => directory.entry m.filename))
  | illegible {m : Module} (hm : m ∈ ms) (h : ¬Legible w place m) (e : Text.Utf8Error) :
    ModulesSaved directory place ms w w' (.error (.notUtf8 e))

section ModulesSaved

variable {directory : Path} {place : List String} {m : Module} {ms : List Module}
  {r : Except Fault (List Path)}

/-- Modules that were not touched before are saved as from the beginning. -/
theorem ModulesSaved.congr {v : World σ} (h : ModulesSaved directory place ms v w' r)
    (hv : ∀ m ∈ ms, found v place m = found w place m) : ModulesSaved directory place ms w w' r := by
  cases h with
  | done hlegible hkept =>
    rw [stale_congr hv]
    exact .done (fun x hx => (left_congr (hv x hx)).1.1 (hlegible x hx)) fun x hx =>
      ⟨(hkept x hx).leads, (hkept x hx).found.trans (left_congr (hv x hx)).2.2⟩
  | illegible hm hnot e => exact .illegible hm (fun hl => hnot ((left_congr (hv _ hm)).1.2 hl)) e

/-- One more module, which is current. -/
theorem ModulesSaved.cons_current (h : ModulesSaved directory place ms w w' r)
    (hlegible : Legible w place m) (hm : current w place m) (hleads : Leads w' directory place m)
    (hfound : found w' place m = found w place m) :
    ModulesSaved directory place (m :: ms) w w' r := by
  cases h with
  | done hl hkept =>
    have hstale : stale w place (m :: ms) = stale w place ms := by
      rw [stale, stale, List.filter_cons_of_neg (by simp [hm])]
    rw [← hstale]
    refine .done (List.forall_mem_cons.2 ⟨hlegible, hl⟩)
      (List.forall_mem_cons.2 ⟨⟨hleads, ?_⟩, hkept⟩)
    rw [hfound, left, if_pos hm]
  | illegible hx hnot e => exact .illegible (List.mem_cons_of_mem _ hx) hnot e

/-- One more module, which is written. -/
theorem ModulesSaved.cons_stale (h : ModulesSaved directory place ms w w' r)
    (hlegible : Legible w place m) (hm : ¬current w place m) (hleads : Leads w' directory place m)
    (hfound : found w' place m = some (Text.encode m.source)) :
    ModulesSaved directory place (m :: ms) w w' (r.map fun ps => directory.entry m.filename :: ps) := by
  cases h with
  | done hl hkept =>
    have hstale : stale w place (m :: ms) = m :: stale w place ms := by
      rw [stale, stale, List.filter_cons_of_pos (by simp [hm])]
    have hdone : ModulesSaved directory place (m :: ms) w w' _ := .done
      (List.forall_mem_cons.2 ⟨hlegible, hl⟩)
      (List.forall_mem_cons.2 ⟨⟨hleads, by rw [hfound, left, if_neg hm]⟩, hkept⟩)
    rwa [hstale] at hdone
  | illegible hx hnot e => exact .illegible (List.mem_cons_of_mem _ hx) hnot e

end ModulesSaved

/-- Saving modules alters nothing but their files. -/
theorem saved_modules {directory : Path} {place : List String} {ms : List Module}
    (hv : ∀ m ∈ ms, Plain m.filename) (hn : (ms.map Module.filename).Nodup)
    (hw : w.directory.absolute = true) (hd : w.Located directory place) {r : Except Fault (List Path)}
    (hio : ∀ e, r ≠ .error (.file e)) (h : Ends carry (saveModules directory ms) w r w') :
    World.Alters (placesOf place ms) w w' ∧ ModulesSaved directory place ms w w' r := by
  induction ms generalizing w r with
  | nil =>
    obtain ⟨rfl, rfl⟩ := ends_done.1 h
    exact ⟨.refl _ _, .done (by simp) (by simp)⟩
  | cons m ms ih =>
    obtain ⟨hvm, hvms⟩ := List.forall_mem_cons.1 hv
    rw [List.map_cons, List.nodup_cons] at hn
    have hne : ∀ x ∈ ms, place ++ [x.filename] ≠ place ++ [m.filename] := fun x hx he =>
      hn.1 (List.mem_map.2 ⟨x, hx, List.singleton_inj.1 (List.append_cancel_left he)⟩)
    -- what is done for one module does not concern the files of the others
    have hrest : ∀ {v : World σ} {r : Except Fault (List Path)}, (∀ e, r ≠ .error (.file e)) →
        World.Alters (· = place ++ [m.filename]) w v →
        Ends carry (saveModules directory ms) v r w' →
        World.Alters (placesOf place (m :: ms)) w w' ∧
          (Leads v directory place m → Leads w' directory place m) ∧
          found w' place m = found v place m ∧ ModulesSaved directory place ms w w' r := by
      intro v r hio ha hms
      obtain ⟨hkeep, hsaved⟩ := ih hvms hn.2 (by rwa [ha.directory]) (ha.keeps.located hd) hio hms
      exact ⟨(ha.mono fun q hq => ⟨m, List.mem_cons_self, hq⟩).trans
        (hkeep.mono fun q ⟨x, hx, hq⟩ => ⟨x, List.mem_cons_of_mem _ hx, hq⟩),
        fun hl => hl.keeps hkeep.keeps, found_congr (hkeep.other _ fun ⟨x, hx, hq⟩ => hne x hx hq.symm),
        hsaved.congr fun x hx => found_congr (ha.other _ (hne x hx))⟩
    rcases ends_bind.1 h with ⟨b, v, hb, hafter⟩ | ⟨e, hb, rfl⟩
    · obtain ⟨rfl, ⟨hb, hcurrent, hlegible, hleads⟩ | ⟨hb, hstale⟩ | ⟨⟨e, he⟩, -⟩⟩ :=
        ends_holds hd hvm (fun _ he => by cases he) hb
      · cases hb
        obtain ⟨hkeep, hlead, hfound, hsaved⟩ := hrest hio (.refl _ _) hafter
        exact ⟨hkeep, hsaved.cons_current hlegible hcurrent (hlead hleads) hfound⟩
      · cases hb
        rcases ends_bind.1 hafter with ⟨⟨⟩, u, hreplace, hafter⟩ | ⟨e, hreplace, rfl⟩
        · have hplaced := replaced_in hw hd hvm hreplace
          obtain ⟨hnot, hlegible⟩ :=
            hstale (hplaced.alters.locate_before (fun q hq => by simp [hq, hplaced.self]) hplaced.locate)
          rcases ends_bind.1 hafter with ⟨ps, u', hms, hlast⟩ | ⟨e, hms, rfl⟩
          · obtain ⟨rfl, rfl⟩ := ends_done.1 hlast
            obtain ⟨hkeep, hlead, hfound, hsaved⟩ := hrest (fun _ he => by cases he) hplaced.alters hms
            exact ⟨hkeep, hsaved.cons_stale hlegible hnot (hlead hplaced.locate)
              (hfound.trans (found_eq_some.2 hplaced.self))⟩
          · obtain ⟨hkeep, hlead, hfound, hsaved⟩ :=
              hrest (fun f he => hio f (by cases he; rfl)) hplaced.alters hms
            exact ⟨hkeep, hsaved.cons_stale hlegible hnot (hlead hplaced.locate)
              (hfound.trans (found_eq_some.2 hplaced.self))⟩
        · obtain ⟨f, rfl⟩ := refused_of_replaceText hreplace
          exact absurd rfl (hio f)
      · cases he
    · obtain ⟨rfl, ⟨hb, -⟩ | ⟨hb, -⟩ | ⟨⟨e, he⟩, hnot⟩⟩ :=
        ends_holds hd hvm (fun f he => hio f (by cases he; rfl)) hb
      · cases hb
      · cases hb
      · cases he
        exact ⟨.refl _ _, .illegible List.mem_cons_self hnot e⟩

/-! ### Whole runs -/

theorem plain_lockName : Plain lockName :=
  ⟨by decide, by decide, by decide, by decide⟩

/-- How saving a run ends, unless the files refuse. New or changed are the files of its modules, the one of
the registry and directories on the way to that of the run, and nothing else. -/
inductive Saved (directory : Path) (place : List String) (g : Generation) (w w' : World σ) :
    Except Fault (List Path) → Prop
  | done (legible : ∀ m ∈ g.modules, Legible w place m)
    (kept : ∀ m ∈ g.modules, ModuleLeft directory place w w' m)
    (lock : ∃ text, g.registry.lockText = .ok text ∧
      w'.files.get? (place ++ [lockName]) = some (.file (Text.encode text)))
    (other : ∀ q, ¬placesOf place g.modules q → q ≠ place ++ [lockName] →
      World.PavedAt directory w w' q) :
    Saved directory place g w w'
      (.ok ((stale w place g.modules).map fun m => directory.entry m.filename))
  | illegible {m : Module} (hm : m ∈ g.modules) (h : ¬Legible w place m) (e : Text.Utf8Error)
    (other : ∀ q, ¬placesOf place g.modules q → World.PavedAt directory w w' q) :
    Saved directory place g w w' (.error (.notUtf8 e))

/-- A directory that was made on the way is no file of a module. -/
theorem found_of_paved {v : World σ} {directory : Path} {place : List String} (h : World.Paved directory w v)
    (m : Module) : found v place m = found w place m := by
  rcases h.other (place ++ [m.filename]) with he | ⟨hnone, hnew, -⟩
  · exact found_congr he
  · rw [found, found, hnone, hnew]

theorem saved_of_ends {directory : Path} {g : Generation} (hv : ∀ m ∈ g.modules, Visible m.filename)
    (hn : (g.modules.map Module.filename).Nodup) (hw : w.directory.absolute = true)
    {r : Except Fault (List Path)} (hio : ∀ e, r ≠ .error (.file e))
    (h : Ends carry (save directory g) w r w') :
    ∃ place, w'.Located directory place ∧ (∀ q, w.Located directory q → q = place) ∧
      Saved directory place g w w' r := by
  have hplain : ∀ m ∈ g.modules, Plain m.filename := fun m hm => (hv m hm).toPlain
  rcases ends_bind.1 h with ⟨⟨⟩, v, hdir, hrest⟩ | ⟨e, hdir, rfl⟩
  swap
  · obtain ⟨f, rfl⟩ := refused_of_ensureDirectory hdir
    exact absurd rfl (hio f)
  obtain ⟨hpaved, hlocated⟩ := paved_of_ensureDirectory (World.endsAmid_of_ends hdir)
  obtain ⟨place, hd⟩ := hlocated rfl
  have hsame : ∀ q, w.Located directory q → q = place := fun q hq => (hpaved.keeps.located hq).unique hd
  have hwv : v.directory.absolute = true := by rwa [hpaved.directory]
  rcases ends_bind.1 hrest with ⟨ps, u, hms, hlast⟩ | ⟨e, hms, rfl⟩
  · obtain ⟨halters, hsaved⟩ := saved_modules hplain hn hwv hd (fun f he => by cases he) hms
    obtain ⟨text, htext⟩ := g.registry.exists_lockText
    have hdu := halters.keeps.located hd
    rcases ends_bind.1 hlast with ⟨⟨⟩, u', hlock, hend⟩ | ⟨e, hlock, rfl⟩
    swap
    · rw [saveLock, htext] at hlock
      obtain ⟨f, rfl⟩ := refused_of_replaceText hlock
      exact absurd rfl (hio f)
    obtain ⟨rfl, rfl⟩ := ends_done.1 hend
    rw [saveLock, htext] at hlock
    have hplaced := replaced_in (by rwa [halters.directory]) hdu plain_lockName hlock
    have hapart : ∀ m ∈ g.modules, place ++ [m.filename] ≠ place ++ [lockName] := fun m hm he =>
      (hv m hm).head (by rw [List.singleton_inj.1 (List.append_cancel_left he)]; decide)
    refine ⟨place, hplaced.alters.keeps.located hdu, hsame, ?_⟩
    have hpaved' := hsaved.congr fun m _ => found_of_paved hpaved m
    cases hpaved' with
    | done hlegible hkept =>
      refine .done hlegible (fun m hm => ⟨(hkept m hm).leads.keeps hplaced.alters.keeps, ?_⟩)
        ⟨text, htext, hplaced.self⟩ fun q hq hql => ?_
      · rw [← (hkept m hm).found]
        exact found_congr (hplaced.alters.other _ (hapart m hm))
      · have hboth : World.Alters (fun q => placesOf place g.modules q ∨ q = place ++ [lockName]) v w' :=
          (halters.mono fun _ => Or.inl).trans (hplaced.alters.mono fun _ => Or.inr)
        exact hpaved.pavedAt hboth (by simp [hq, hql])
  · obtain ⟨halters, hsaved⟩ :=
      saved_modules hplain hn hwv hd (fun f he => hio f (by cases he; rfl)) hms
    refine ⟨place, halters.keeps.located hd, hsame, ?_⟩
    cases hsaved with
    | illegible hm hnot e =>
      exact .illegible hm (fun hl => hnot ((left_congr (found_of_paved hpaved _)).1.2 hl)) e
        fun q hq => hpaved.pavedAt halters hq

/-- The file of a module in a directory holds its text. -/
structure Stored (w : World σ) (directory : Path) (place : List String) (m : Module) : Prop where
  locate : Leads w directory place m
  spells : ∃ bytes, w.files.get? (place ++ [m.filename]) = some (.file bytes) ∧ Spells bytes m.source

theorem Stored.read {directory : Path} {place : List String} {m : Module}
    (h : Stored w directory place m) :
    ∃ bytes, w.files.read (w.place (directory.entry m.filename)) = .ok bytes ∧
      Spells bytes m.source := by
  obtain ⟨bytes, hf, hs⟩ := h.spells
  exact ⟨bytes, Files.read_of_locate h.locate hf, hs⟩

/-- When a run was saved, every module with a file name of its own is in its file. -/
theorem saved {directory : Path} {g : Generation} (hv : ∀ m ∈ g.modules, Visible m.filename)
    (hn : (g.modules.map Module.filename).Nodup) (hw : w.directory.absolute = true)
    {written : List Path} (h : Ends carry (save directory g) w (.ok written) w') :
    ∃ place, w'.Located directory place ∧ ∀ m ∈ g.modules, Stored w' directory place m := by
  obtain ⟨place, hd, -, hsaved⟩ := saved_of_ends hv hn hw (fun f he => by cases he) h
  cases hsaved with
  | done hlegible hkept hlock hother =>
    refine ⟨place, hd, fun m hm => ⟨(hkept m hm).leads, ?_⟩⟩
    have hfound := (hkept m hm).found
    rw [left] at hfound
    split at hfound
    next hcurrent =>
      rw [current, Option.any_eq_true] at hcurrent
      obtain ⟨bytes, hb, hreads⟩ := hcurrent
      exact ⟨bytes, found_eq_some.1 (hfound.trans hb), Or.inr (readsAs_iff.1 hreads)⟩
    next => exact ⟨_, found_eq_some.1 hfound, Or.inl rfl⟩

/-! ### What is found after a run was saved -/

/-- Once a run was saved, its registry is found in its directory. -/
theorem loadLock_of_save {directory : Path} {g : Generation} {written : List Path}
    (hw : w.directory.absolute = true) (h : Ends carry (save directory g) w (.ok written) w') :
    Ends carry (loadLock directory) w' (.ok (some g.registry.entries)) w' := by
  obtain ⟨⟨⟩, v₁, hdir, h₁⟩ := ends_bind_ok.1 h
  obtain ⟨names, v₂, hms, h₂⟩ := ends_bind_ok.1 h₁
  obtain ⟨⟨⟩, v₃, hlock, h₃⟩ := ends_bind_ok.1 h₂
  obtain ⟨-, rfl⟩ := ends_pure.1 h₃
  obtain ⟨text, v₄, hkept, hreplace⟩ := ends_bind_ok.1 hlock
  obtain ⟨htext, rfl⟩ := ends_ofExcept.1 hkept
  have hw₂ : v₄.directory.absolute = true := by
    rwa [World.directory_of_ends hms, World.directory_of_ends hdir]
  obtain ⟨v, place, -, -, hplaced⟩ := replaced hw₂ plain_lockName hreplace
  have hread := Files.read_of_locate hplaced.locate hplaced.self
  refine ends_loadLock.2 ⟨?_, rfl⟩
  rw [heldLock, kind_of_read hread, hread]
  dsimp only
  rw [if_pos rfl, entriesOf_encode (mapError_eq_ok.1 htext)]

end SchemaDecl.Storage
