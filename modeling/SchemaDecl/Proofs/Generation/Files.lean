import Mathlib.Data.List.Nodup
import SchemaDecl.Proofs.Emission.Imports
import SchemaDecl.Proofs.Generation.Outcome
import SchemaDecl.Proofs.Registry.Build
import SchemaDecl.Proofs.Storage.Saving

/-! The files of a run. Each module is named for the identifier of its definition, and two more for the
registry and the index. Identifiers of different names may be the same, so the files have names of their
own only as long as this does not happen; then all modules are on disk when the run was saved. -/

namespace SchemaDecl

theorem Target.filename_inj {t : Target} {a b : String} : t.filename a = t.filename b ↔ a = b :=
  ⟨fun h => String.append_left_inj _ |>.1 h, fun h => congrArg _ h⟩

namespace Generation

open Registry (Entry)

variable {doc : Document} {settings : Settings} {previous : List Entry} {g : Generation}

/-- The definition with a name has a module among the declarations. -/
def Declared (doc : Document) (g : Generation) (name : String) : Prop :=
  ∃ m, (.text name, m) ∈ declared doc g

/-- Identifiers tell the declarations of a run apart, from each other and from the registry and the
index. -/
structure Unmistakable (doc : Document) (t : Target) (g : Generation) : Prop where
  injective : ∀ a b, Declared doc g a → Declared doc g b → Identifier.ofName a = Identifier.ofName b →
    a = b
  registry : ∀ a, Declared doc g a → Identifier.ofName a ≠ "TypeRegistry"
  index : ∀ a, Declared doc g a → Identifier.ofName a ≠ t.indexName

theorem filename_of_mem_declared (hg : (run doc settings previous).result = .ok g) (ht : doc.Textual)
    (hn : doc.names.Nodup) {p : Name × Module} (hp : p ∈ declared doc g) :
    ∃ name, p.1 = .text name ∧ p.2.filename = settings.target.filename (Identifier.ofName name) := by
  obtain ⟨d, hd, hdeclare⟩ := (mem_declared_iff hg ht hn).1 hp
  obtain ⟨s, -, hm⟩ := declare_eq_module.1 hdeclare
  obtain ⟨name, hname⟩ := ht _ hd
  rw [show p.1 = Name.text name from hname] at hm
  exact ⟨name, hname, (Emitter.declares_of_declaration hm).filename_eq⟩

theorem map_fst_zip_sublist {α β : Type} (xs : List α) (ys : List β) :
    ((xs.zip ys).map Prod.fst).Sublist xs := by
  induction xs generalizing ys with
  | nil => exact List.Sublist.slnil
  | cons x xs ih =>
    cases ys with
    | nil => exact List.nil_sublist _
    | cons y ys => exact (ih ys).cons_cons x

/-- Names of definitions stand once among those of the declarations. -/
theorem nodup_map_fst_declared (hn : doc.names.Nodup) : ((declared doc g).map Prod.fst).Nodup :=
  (hn.filter _).sublist (map_fst_zip_sublist _ _)

/-- The declarations have files of their own exactly when no two of their names come to the same
identifier. -/
theorem nodup_filenames_declarations (hg : (run doc settings previous).result = .ok g)
    (ht : doc.Textual) (hn : doc.names.Nodup) :
    (g.declarations.map Module.filename).Nodup ↔
      ∀ a b, Declared doc g a → Declared doc g b → Identifier.ofName a = Identifier.ofName b → a = b := by
  have hnames := nodup_map_fst_declared (g := g) hn
  rw [← map_snd_declared hg ht hn, List.map_map]
  constructor
  · rintro h a b ⟨m, hm⟩ ⟨m', hm'⟩ hab
    obtain ⟨_, ha, hf⟩ := filename_of_mem_declared hg ht hn hm
    obtain ⟨_, hb, hf'⟩ := filename_of_mem_declared hg ht hn hm'
    cases ha
    cases hb
    have hsame := List.inj_on_of_nodup_map h hm hm' (hf.trans ((hab ▸ hf').symm))
    cases hsame
    rfl
  · intro h
    refine (List.Nodup.of_map _ hnames).map_on fun p hp q hq hpq => ?_
    obtain ⟨a, ha, hf⟩ := filename_of_mem_declared hg ht hn hp
    obtain ⟨b, hb, hf'⟩ := filename_of_mem_declared hg ht hn hq
    obtain ⟨_, m⟩ := p
    obtain ⟨_, m'⟩ := q
    cases ha
    cases hb
    obtain rfl : a = b := by
      refine h a b ⟨m, hp⟩ ⟨m', hq⟩ ?_
      rw [← Target.filename_inj (t := settings.target), ← hf, ← hf']
      exact hpq
    exact List.inj_on_of_nodup_map hnames hp hq rfl

theorem filename_registryModule_and_index (hg : (run doc settings previous).result = .ok g) :
    g.registryModule.filename = settings.target.filename "TypeRegistry" ∧
      g.index.filename = settings.target.filename settings.target.indexName := by
  obtain ⟨-, hg⟩ := run_eq_ok hg
  obtain ⟨out, -, hg⟩ := map_eq_ok hg
  rw [← hg]
  exact ⟨rfl, rfl⟩

/-- The file of the declarations that have a name is that of no identifier without it. -/
theorem not_mem_filenames_iff (hg : (run doc settings previous).result = .ok g) (ht : doc.Textual)
    (hn : doc.names.Nodup) (symbol : String) :
    settings.target.filename symbol ∉ g.declarations.map Module.filename ↔
      ∀ a, Declared doc g a → Identifier.ofName a ≠ symbol := by
  rw [← map_snd_declared hg ht hn, List.map_map]
  constructor
  · rintro h a ⟨m, hm⟩ rfl
    obtain ⟨_, ha, hf⟩ := filename_of_mem_declared hg ht hn hm
    cases ha
    exact h (List.mem_map.2 ⟨_, hm, hf⟩)
  · intro h hmem
    obtain ⟨⟨_, m⟩, hp, hps⟩ := List.mem_map.1 hmem
    obtain ⟨a, ha, hf⟩ := filename_of_mem_declared hg ht hn hp
    cases ha
    exact h a ⟨m, hp⟩ (Target.filename_inj.1 (hf.symm.trans hps))

/-- All files of a run have names of their own exactly when its declarations are unmistakable. -/
theorem nodup_filenames_iff (hg : (run doc settings previous).result = .ok g) (ht : doc.Textual)
    (hn : doc.names.Nodup) :
    (g.modules.map Module.filename).Nodup ↔ Unmistakable doc settings.target g := by
  obtain ⟨hr, hx⟩ := filename_registryModule_and_index hg
  have hends : [settings.target.filename "TypeRegistry",
      settings.target.filename settings.target.indexName].Nodup := by
    cases settings.target <;> decide
  rw [modules, List.map_append, List.map_cons, List.map_cons, List.map_nil, hr, hx, List.nodup_append,
    nodup_filenames_declarations hg ht hn]
  constructor
  · rintro ⟨hinj, -, hapart⟩
    refine ⟨hinj, ?_, ?_⟩
    · exact (not_mem_filenames_iff hg ht hn _).1 fun h => hapart _ h _ List.mem_cons_self rfl
    · exact (not_mem_filenames_iff hg ht hn _).1 fun h =>
        hapart _ h _ (List.mem_cons_of_mem _ List.mem_cons_self) rfl
  · intro h
    refine ⟨h.injective, hends, ?_⟩
    rintro f hf f' hf' rfl
    rcases List.mem_cons.1 hf' with rfl | hf'
    · exact (not_mem_filenames_iff hg ht hn _).2 h.registry hf
    · obtain rfl := List.mem_singleton.1 hf'
      exact (not_mem_filenames_iff hg ht hn _).2 h.index hf

/-- No module is a hidden file. -/
theorem visible_of_run (hg : (run doc settings previous).result = .ok g) :
    ∀ m ∈ g.modules, Path.Visible m.filename := by
  obtain ⟨hr, hx⟩ := filename_registryModule_and_index hg
  intro m hm
  rw [modules, List.mem_append, List.mem_cons, List.mem_singleton] at hm
  rcases hm with hm | rfl | rfl
  · obtain ⟨⟨name, d⟩, -, hdeclare⟩ := (outcomes_of_run hg).exists_declare hm
    obtain ⟨s, -, hm⟩ := declare_eq_module.1 hdeclare
    cases name with
    | other v => cases hm
    | text name =>
      rw [(Emitter.declares_of_declaration hm).filename_eq]
      exact Target.filename_visible _ (Identifier.ofName_wellFormed name).toIsWord
  · rw [hr]
    exact Target.filename_visible _ (Identifier.isWord_of_ofName_eq (by decide +kernel))
  · rw [hx]
    refine Target.filename_visible _ (Identifier.isWord_of_ofName_eq ?_)
    cases settings.target <;> decide +kernel

/-- The files of a run have names of their own exactly when its declarations are unmistakable, and then
every module that was generated is in its file when the run was saved. -/
theorem files_of_run (doc : Document) (settings : Settings) (previous : List Entry) (g : Generation)
    (hg : (run doc settings previous).result = .ok g) (ht : doc.Textual) (hn : doc.names.Nodup) :
    ((g.modules.map Module.filename).Nodup ↔ Unmistakable doc settings.target g) ∧
      ∀ {σ : Type} (carry : Transport σ) (directory : Path) (w w' : World σ) (written : List Path),
        Unmistakable doc settings.target g → w.directory.absolute = true →
        World.Ends carry (Storage.save directory g) w (.ok written) w' →
        ∀ m ∈ g.modules, ∃ bytes, w'.files.read (w'.place (directory.entry m.filename)) = .ok bytes ∧
          Storage.Spells bytes m.source := by
  refine ⟨nodup_filenames_iff hg ht hn, fun carry directory w w' written hu hw hsave m hm => ?_⟩
  obtain ⟨place, -, hstored⟩ := Storage.saved (visible_of_run hg)
    ((nodup_filenames_iff hg ht hn).2 hu) hw hsave
  exact (hstored m hm).read

/-- A text and a number, by two names. -/
def pair (a b : String) : Document :=
  ⟨[(.text a, { Definition.blank with type := some "string" }),
    (.text b, { Definition.blank with type := some "integer" })]⟩

/-- A world in which there is nothing and nothing can be reached. -/
def desert : World Unit where
  net := ()

def unreachable : Transport Unit :=
  fun _ => Act.fail (.transport ⟨.connect, ""⟩)

theorem textual_pair (a b : String) : (pair a b).Textual := by
  simp [pair]

/-- The directory that a run is saved in. -/
def gen : Path :=
  ⟨false, ["gen"]⟩

def plainSettings : Settings :=
  { target := .typescript, header := "" }

/-- The desert after a run was saved in it. -/
def settled (g : Generation) : World Unit :=
  (World.perform unreachable (Storage.save gen g) desert).2

theorem files_of_run_boxes :
    ∃ g written w', (run (pair "Big-Box" "Box") plainSettings []).result = .ok g ∧
      World.Ends unreachable (Storage.save gen g) desert (.ok written) w' ∧
      g.modules.map Module.filename = ["Big_Box.ts", "Box.ts", "TypeRegistry.ts", "index.ts"] ∧
      ∀ m ∈ g.modules, ∃ bytes, w'.files.read (w'.place (gen.entry m.filename)) = .ok bytes ∧
        Storage.Spells bytes m.source := by
  have hnames : (pair "Big-Box" "Box").names.Nodup := by simp [pair, Document.names]
  have hrun : (run (pair "Big-Box" "Box") plainSettings []).result.toOption.all (fun g =>
      (World.perform unreachable (Storage.save gen g) desert).1.result.isOk &&
        g.modules.map Module.filename ==
          ["Big_Box.ts", "Box.ts", "TypeRegistry.ts", "index.ts"]) = true := by
    decide +kernel
  obtain ⟨g, hg⟩ : ∃ g, (run (pair "Big-Box" "Box") plainSettings []).result = .ok g := ⟨_, rfl⟩
  rw [hg] at hrun
  obtain ⟨hok, hfiles⟩ := Bool.and_eq_true_iff.1 hrun
  obtain ⟨written, hends⟩ := World.exists_ends hok
  have hfiles := beq_iff_eq.1 hfiles
  obtain ⟨hiff, hsaved⟩ := files_of_run _ plainSettings [] g hg (textual_pair _ _) hnames
  exact ⟨g, written, _, hg, hends, hfiles,
    hsaved unreachable gen desert _ written (hiff.1 (hfiles ▸ by decide)) rfl hends⟩

/-- Two names with one identifier have one file, and after the run was saved it holds the second
module alone. -/
theorem files_of_run_twins :
    ∃ g written w' first second, (run (pair "A-b" "A_b") plainSettings []).result = .ok g ∧
      World.Ends unreachable (Storage.save gen g) desert (.ok written) w' ∧
      g.declarations = [first, second] ∧ first.filename = "A_b.ts" ∧ second.filename = "A_b.ts" ∧
      first.source ≠ second.source ∧
      w'.files.read (w'.place (gen.entry "A_b.ts")) = .ok (Text.encode second.source) := by
  have hrun : (run (pair "A-b" "A_b") plainSettings []).result.toOption.all (fun g =>
      (World.perform unreachable (Storage.save gen g) desert).1.result.isOk &&
        g.declarations.map Module.filename == ["A_b.ts", "A_b.ts"] &&
        (g.declarations.map Module.source).Nodup &&
        ((settled g).files.read ((settled g).place (gen.entry "A_b.ts"))).toOption ==
          (g.declarations.map fun m => Text.encode m.source).getLast?) = true := by
    decide +kernel
  obtain ⟨g, hg⟩ : ∃ g, (run (pair "A-b" "A_b") plainSettings []).result = .ok g := ⟨_, rfl⟩
  rw [hg] at hrun
  obtain ⟨h₁, hread⟩ := Bool.and_eq_true_iff.1 hrun
  obtain ⟨h₂, hsources⟩ := Bool.and_eq_true_iff.1 h₁
  obtain ⟨hok, hfiles⟩ := Bool.and_eq_true_iff.1 h₂
  obtain ⟨written, hends⟩ := World.exists_ends hok
  obtain ⟨first, rest, hfirst, hf, hrest⟩ := List.map_eq_cons_iff.1 (beq_iff_eq.1 hfiles)
  obtain ⟨second, none, hsecond, hs, hnone⟩ := List.map_eq_cons_iff.1 hrest
  obtain rfl := List.map_eq_nil_iff.1 hnone
  have hpair : g.declarations = [first, second] := by rw [hfirst, hsecond]
  rw [hpair] at hread hsources
  refine ⟨g, written, settled g, first, second, hg, hends, hpair, hf, hs, ?_, ?_⟩
  · have hnodup : [first.source, second.source].Nodup := of_decide_eq_true hsources
    simpa using hnodup
  · exact eq_ok_of_toOption (beq_iff_eq.1 hread)

end Generation

end SchemaDecl
