import SchemaDecl.Proofs.Generation.Files

/-! Saving a run over what is there already. A module whose file reads as its text is left alone. Since
a file is read with line feeds for all line ends, its bytes may then be others than those of the module,
and a module with a carriage return is written by every run; and a file that is no text stands in the
way. With these exceptions the files of the run are what they would be in an empty directory. -/

namespace SchemaDecl.Generation

open Registry (Entry)
open Storage (Saved Legible found left current stale readsAs)

variable {σ : Type} {carry : Transport σ} {w w' : World σ} {directory : Path} {place : List String}
  {g : Generation} {r : Except Fault (List Path)}

/-- The modules that every save writes. -/
def returning (g : Generation) : List Module :=
  g.modules.filter fun m => m.source.toList.contains '\r'

/-- What a save has left is legible. -/
theorem legible_of_saved {written : List Path} (h : Saved directory place g w w' (.ok written)) :
    ∀ m ∈ g.modules, Legible w' place m := by
  cases h with
  | done hlegible hkept hlock hother =>
    intro m hm bytes hb
    rw [(hkept m hm).found, left] at hb
    split at hb
    next => exact hlegible m hm bytes hb
    next =>
      cases hb
      exact ⟨_, Text.decode_encode _⟩

/-- What a save has left reads as the text, unless that has carriage returns. -/
theorem current_of_saved {written : List Path} (h : Saved directory place g w w' (.ok written))
    {m : Module} (hm : m ∈ g.modules) : current w' place m ↔ '\r' ∉ m.source.toList := by
  cases h with
  | done hlegible hkept hlock hother =>
    rw [current, (hkept m hm).found, left]
    split
    next hcurrent =>
      obtain ⟨bytes, hb, hreads⟩ := (Option.any_eq_true _ _).1 hcurrent
      rw [hb]
      exact iff_of_true hreads (Storage.not_mem_of_readsAs hreads)
    next => exact Storage.readsAs_encode m.source

theorem stale_of_saved {written : List Path} (h : Saved directory place g w w' (.ok written)) :
    stale w' place g.modules = g.returning := by
  refine List.filter_congr fun m hm => ?_
  have hcurrent := current_of_saved h hm
  rw [Bool.eq_iff_iff, Bool.not_eq_true', Bool.eq_false_iff, Ne, hcurrent, not_not,
    List.contains_iff_mem]

/-- A run with files of its own is saved unless one of these is there and no text. Then the paths of
the modules are returned whose files did not read as their texts, those files hold the texts as they are
and the others what they held, the registry is kept, and nothing else is new but directories on the way.
When the run is saved again, the modules with carriage returns are written once more. -/
theorem saved_over (doc : Document) (settings : Settings) (previous : List Entry) (g : Generation)
    (hg : (run doc settings previous).result = .ok g) (hn : (g.modules.map Module.filename).Nodup)
    {σ : Type} (carry : Transport σ) (directory : Path) (w w' : World σ) (r : Except Fault (List Path))
    (hw : w.directory.absolute = true) (hio : ∀ e, r ≠ .error (.file e))
    (h : World.Ends carry (Storage.save directory g) w r w') :
    ∃ place, w'.Located directory place ∧ Saved directory place g w w' r ∧
      ((∃ written, r = .ok written) ↔ ∀ m ∈ g.modules, Legible w place m) ∧
      ∀ written w'' r', r = .ok written → (∀ e, r' ≠ .error (.file e)) →
        World.Ends carry (Storage.save directory g) w' r' w'' →
        r' = .ok (g.returning.map fun m => directory.entry m.filename) := by
  have hv := visible_of_run hg
  obtain ⟨place, hd, -, hsaved⟩ := Storage.saved_of_ends hv hn hw hio h
  refine ⟨place, hd, hsaved, ?_, ?_⟩
  · cases hsaved with
    | done hlegible => exact iff_of_true ⟨_, rfl⟩ hlegible
    | illegible hm hnot e =>
      refine iff_of_false ?_ fun hl => hnot (hl _ hm)
      rintro ⟨written, hr⟩
      cases hr
  · rintro written w'' r' rfl hio' h'
    obtain ⟨place', -, hsame, hagain⟩ :=
      Storage.saved_of_ends hv hn (by rwa [World.directory_of_ends h]) hio' h'
    obtain rfl := hsame place hd
    cases hagain with
    | done => rw [stale_of_saved hsaved]
    | illegible hm hnot e => exact absurd (legible_of_saved hsaved _ hm) hnot

/-- A world with one file in the directory of the run. -/
def oasis (name : String) (bytes : List UInt8) : World Unit where
  files := ⟨[(["gen"], .directory), (["gen", name], .file bytes)]⟩
  net := ()

/-- A text, by a name. -/
def alone (a : String) : Document :=
  ⟨[(.text a, { Definition.blank with type := some "string" })]⟩

/-- The paths of all modules of a run. -/
def paths (g : Generation) : List Path :=
  g.modules.map fun m => gen.entry m.filename

theorem saved_over_box :
    ∃ g w', (run (alone "Box") plainSettings []).result = .ok g ∧
      World.Ends unreachable (Storage.save gen g) (oasis "Box.ts" [65]) (.ok g.paths) w' ∧
      ∃ place, w'.Located gen place ∧ Saved gen place g (oasis "Box.ts" [65]) w' (.ok g.paths) := by
  have hrun : (run (alone "Box") plainSettings []).result.toOption.all (fun g =>
      (World.perform unreachable (Storage.save gen g) (oasis "Box.ts" [65])).1.result.toOption ==
          some g.paths &&
        (g.modules.map Module.filename).Nodup) = true := by
    decide +kernel
  obtain ⟨g, hg⟩ : ∃ g, (run (alone "Box") plainSettings []).result = .ok g := ⟨_, rfl⟩
  rw [hg] at hrun
  obtain ⟨hok, hnodup⟩ := Bool.and_eq_true_iff.1 hrun
  obtain ⟨w', hends⟩ := World.exists_ends_of_toOption (beq_iff_eq.1 hok)
  obtain ⟨place, hd, hsaved, -⟩ := saved_over _ plainSettings [] g hg (of_decide_eq_true hnodup)
    unreachable gen _ w' _ rfl (fun e he => by cases he) hends
  exact ⟨g, w', hg, hends, place, hd, hsaved⟩

/-- Whether work ended at bytes that are no text. -/
def endsAtBytes {α : Type} : Except Fault α → Bool
  | .error (.notUtf8 _) => true
  | _ => false

/-- A file that is no text ends the work, though the run has files of its own; and a run whose banner has a
carriage return is written again in full by the next save. -/
theorem saved_over_noText :
    (∃ g w' e, (run (alone "Box") plainSettings []).result = .ok g ∧
      (g.modules.map Module.filename).Nodup ∧
      World.Ends unreachable (Storage.save gen g) (oasis "Box.ts" [255]) (.error (.notUtf8 e)) w') ∧
    ∃ g w', (run ⟨[]⟩ { plainSettings with header := "x\ry" } []).result = .ok g ∧
      (g.modules.map Module.filename).Nodup ∧
      World.Ends unreachable (Storage.save gen g) (settled g) (.ok g.paths) w' := by
  have hrun : (run (alone "Box") plainSettings []).result.toOption.all (fun g =>
      endsAtBytes (World.perform unreachable (Storage.save gen g) (oasis "Box.ts" [255])).1.result &&
        (g.modules.map Module.filename).Nodup) = true := by
    decide +kernel
  have hbanner : (run ⟨[]⟩ { plainSettings with header := "x\ry" } []).result.toOption.all (fun g =>
      (World.perform unreachable (Storage.save gen g) (settled g)).1.result.toOption ==
          some g.paths &&
        (g.modules.map Module.filename).Nodup) = true := by
    decide +kernel
  constructor
  · obtain ⟨g, hg⟩ : ∃ g, (run (alone "Box") plainSettings []).result = .ok g := ⟨_, rfl⟩
    rw [hg] at hrun
    obtain ⟨hfault, hnodup⟩ := Bool.and_eq_true_iff.1 hrun
    rw [endsAtBytes.eq_def] at hfault
    split at hfault
    next e he => exact ⟨g, _, e, hg, of_decide_eq_true hnodup, World.ends_of_result he⟩
    next => cases hfault
  · obtain ⟨g, hg⟩ : ∃ g, (run ⟨[]⟩ { plainSettings with header := "x\ry" } []).result = .ok g :=
      ⟨_, rfl⟩
    rw [hg] at hbanner
    obtain ⟨hok, hnodup⟩ := Bool.and_eq_true_iff.1 hbanner
    obtain ⟨w', hends⟩ := World.exists_ends_of_toOption (beq_iff_eq.1 hok)
    exact ⟨g, w', hg, of_decide_eq_true hnodup, hends⟩

end SchemaDecl.Generation
