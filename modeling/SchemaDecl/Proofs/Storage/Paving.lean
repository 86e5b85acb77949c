import SchemaDecl.Proofs.Files.Path
import SchemaDecl.Proofs.Refusals
import SchemaDecl.Storage

/-! Making directories. Whatever steps are refused, nothing is lost, and all that is new are directories
on the way to the one that is wanted; when the work returns, that one is there. -/

namespace SchemaDecl

open World (EndsAmid)

/-- Nothing changes in the files but at some places, and paths begin where they did. -/
structure World.Keeps {σ : Type} (touched : List String → Prop) (w w' : World σ) : Prop where
  directory : w'.directory = w.directory
  files : Files.Keeps touched w.files w'.files

/-- Nothing changes in the files but at some places, where no directory is. -/
structure World.Alters {σ : Type} (touched : List String → Prop) (w w' : World σ) : Prop where
  directory : w'.directory = w.directory
  stays : ∀ q, w.files.get? q = some .directory → w'.files.get? q = some .directory
  other : ∀ q, ¬touched q → w'.files.get? q = w.files.get? q

/-- A directory is at a place, and the path leads there. -/
structure World.Located {σ : Type} (w : World σ) (d : Path) (place : List String) : Prop where
  locate : w.files.locate (w.place d) = .ok place
  directory : w.files.get? place = some .directory

section Keeps

variable {σ : Type} {T U : List String → Prop} {w w' w'' : World σ}

theorem World.Keeps.refl (T : List String → Prop) (w : World σ) : World.Keeps T w w :=
  ⟨rfl, .refl T w.files⟩

theorem World.Keeps.trans (h : World.Keeps T w w') (h' : World.Keeps T w' w'') : World.Keeps T w w'' :=
  ⟨h'.directory.trans h.directory, h.files.trans h'.files⟩

theorem World.Keeps.mono (h : World.Keeps T w w') (hTU : ∀ p, T p → U p) : World.Keeps U w w' :=
  ⟨h.directory, h.files.mono hTU⟩

theorem World.Keeps.place_eq (h : World.Keeps T w w') (p : Path) : w'.place p = w.place p := by
  rw [World.place, World.place, h.directory]

theorem World.Keeps.located (h : World.Keeps T w w') {d : Path} {place : List String}
    (hd : w.Located d place) : w'.Located d place where
  locate := by
    rw [h.place_eq]
    exact h.files.locate hd.locate
  directory := h.files.directory place hd.directory

theorem World.Alters.keeps (h : World.Alters T w w') : World.Keeps T w w' where
  directory := h.directory
  files := ⟨h.stays, fun q hq => Or.inl (h.other q hq)⟩

theorem World.Alters.refl (T : List String → Prop) (w : World σ) : World.Alters T w w :=
  ⟨rfl, fun _ hq => hq, fun _ _ => rfl⟩

theorem World.Alters.trans (h : World.Alters T w w') (h' : World.Alters T w' w'') :
    World.Alters T w w'' :=
  ⟨h'.directory.trans h.directory, fun q hq => h'.stays q (h.stays q hq), fun q hq =>
    (h'.other q hq).trans (h.other q hq)⟩

theorem World.Alters.mono (h : World.Alters T w w') (hTU : ∀ p, T p → U p) : World.Alters U w w' :=
  ⟨h.directory, h.stays, fun q hq => h.other q fun ht => hq (hTU q ht)⟩

/-- A path leads nowhere that it did not lead before, if the places that change are those of files. -/
theorem World.Alters.locate_before (h : World.Alters T w w')
    (hT : ∀ q, T q → w'.files.get? q ≠ some .directory) {p : Path} {place : List String}
    (hp : w'.files.locate (w'.place p) = .ok place) : w.files.locate (w.place p) = .ok place := by
  rw [h.keeps.place_eq] at hp
  refine Files.locate_mono (fun q hq => ?_) hp
  rw [← h.other q fun ht => hT q ht hq]
  exact hq

theorem World.Located.unique {d : Path} {place place' : List String} (h : w.Located d place)
    (h' : w.Located d place') : place = place' := by
  have he := h.locate.symm.trans h'.locate
  cases he
  rfl

end Keeps

/-! ### Directories that are made on the way -/

section Paved

variable {σ : Type} {w w' w'' : World σ} {d d' : Path}

/-- A place holds what it held, or is that of a directory that was made on the way to another one. -/
def World.PavedAt (d : Path) (w w' : World σ) (q : List String) : Prop :=
  w'.files.get? q = w.files.get? q ∨
    w.files.get? q = none ∧ w'.files.get? q = some .directory ∧
      ∃ names, names <+: d.names ∧ w'.files.locate (w'.place ⟨d.absolute, names⟩) = .ok q

/-- New are only directories on the way to one. -/
structure World.Paved (d : Path) (w w' : World σ) : Prop where
  directory : w'.directory = w.directory
  other : ∀ q, World.PavedAt d w w' q

theorem World.Paved.refl (d : Path) (w : World σ) : World.Paved d w w :=
  ⟨rfl, fun _ => Or.inl rfl⟩

theorem World.Paved.keeps (h : World.Paved d w w') : World.Keeps (fun _ => False) w w' where
  directory := h.directory
  files :=
    { directory := fun q hq => by
        rcases h.other q with he | ⟨hnone, -⟩
        · rwa [he]
        · rw [hq] at hnone
          cases hnone
      other := fun q _ => (h.other q).imp_right fun hnew => ⟨hnew.1, hnew.2.1⟩ }

theorem World.Paved.trans (h : World.Paved d w w') (h' : World.Paved d w' w'') :
    World.Paved d w w'' where
  directory := h'.directory.trans h.directory
  other q := by
    rcases h'.other q with he | ⟨hnone, hnew, hway⟩
    · rw [World.PavedAt, he]
      refine (h.other q).imp_right fun ⟨hnone, hnew, names, hn, hl⟩ => ⟨hnone, hnew, names, hn, ?_⟩
      rw [h'.keeps.place_eq]
      exact h'.keeps.files.locate hl
    · refine Or.inr ⟨?_, hnew, hway⟩
      rcases h.other q with he | ⟨hnone', -⟩
      · rw [← he, hnone]
      · exact hnone'

theorem World.Paved.mono (h : World.Paved d w w') (ha : d.absolute = d'.absolute)
    (hn : d.names <+: d'.names) : World.Paved d' w w' where
  directory := h.directory
  other q := (h.other q).imp_right fun ⟨hnone, hnew, names, hns, hl⟩ =>
    ⟨hnone, hnew, names, hns.trans hn, ha ▸ hl⟩

/-- What was made on the way is there still when something else was done. -/
theorem World.Paved.pavedAt {v : World σ} {T : List String → Prop} (hv : World.Paved d w v)
    (h : World.Alters T v w') {q : List String} (hq : ¬T q) : World.PavedAt d w w' q := by
  rw [World.PavedAt, h.other q hq]
  refine (hv.other q).imp_right fun ⟨hnone, hnew, names, hn, hl⟩ => ⟨hnone, hnew, names, hn, ?_⟩
  rw [h.keeps.place_eq]
  exact h.keeps.files.locate hl

/-- Where the directory is there, nothing is new. -/
theorem World.Paved.same (h : World.Paved d w w') {place : List String} (hd : w.Located d place)
    (q : List String) : w'.files.get? q = w.files.get? q := by
  refine (h.other q).resolve_right ?_
  rintro ⟨hnone, -, names, hpre, hl⟩
  obtain ⟨q', hq', hdir⟩ : ∃ q', w.files.locate (w.place ⟨d.absolute, names⟩) = .ok q' ∧
      w.files.get? q' = some .directory := by
    have hloc := hd.locate
    rw [World.place, Path.join] at hloc ⊢
    split at hloc
    next ha =>
      rw [if_pos ha]
      exact Files.locate_prefix hpre hloc hd.directory
    next ha =>
      rw [if_neg ha]
      exact Files.locate_prefix (p := ⟨w.directory.absolute, w.directory.names ++ d.names⟩)
        ((List.prefix_append_right_inj _).2 hpre) hloc hd.directory
  rw [h.keeps.place_eq, h.keeps.files.locate hq'] at hl
  cases hl
  rw [hdir] at hnone
  cases hnone

end Paved

namespace Storage

variable {σ : Type} {carry : Transport σ} {w w' : World σ} {refused : List Query}

/-! ### Steps amid refusals -/

theorem exists_of_kind {fs : Files} {p : Path} {k : FileKind} (h : fs.kind p = .ok (some k)) :
    ∃ place n, fs.locate p = .ok place ∧ fs.get? place = some n ∧
      (k = .directory → n = .directory) := by
  unfold Files.kind at h
  split at h
  next => cases h
  next => cases h
  next => cases h
  next => cases h
  next place hp =>
    cases hn : fs.get? place with
    | none =>
      rw [hn] at h
      cases h
    | some n =>
      rw [hn] at h
      refine ⟨place, n, hp, hn, ?_⟩
      rintro rfl
      cases n with
      | directory => rfl
      | file bytes => cases h

theorem amid_kind {p : Path} {r : Except Fault (Option FileKind)}
    (h : EndsAmid carry (kind p) w refused r w') :
    refused = [] ∧ r = (w.files.kind (w.place p)).mapError Fault.file ∧ w' = w := by
  rcases h with ⟨a, v, ⟨ns, ha⟩, h⟩ | ⟨e, a, v, rest, he, -⟩
  · cases ha
    exact h
  · cases he

theorem amid_isDirectory {p : Path} {r : Except Fault Bool}
    (h : EndsAmid carry (isDirectory p) w refused r w') :
    w' = w ∧ (r = .ok true → ∃ place, w.Located p place) := by
  rcases h.bind with ⟨k, u, before, after, -, hk, -, rfl, rfl⟩ | ⟨e, hk, rfl⟩
  · obtain ⟨-, hkind, rfl⟩ := amid_kind hk
    refine ⟨rfl, fun hr => ?_⟩
    obtain rfl : k = some .directory := by simpa using hr
    obtain ⟨place, n, hp, hn, hdir⟩ := exists_of_kind (mapError_eq_ok.1 hkind.symm)
    exact ⟨place, hp, by rw [hn, hdir rfl]⟩
  · obtain ⟨-, -, rfl⟩ := amid_kind hk
    exact ⟨rfl, nofun⟩

theorem refusal_act {a : FileAction} {e : FileFault} {b : Except FileFault Unit}
    (h : (Query.act a).refusal e = some b) : b = .error e := by
  cases a <;> cases h <;> rfl

/-- An order is carried out, or the files as they are do not allow it, or it is refused. -/
theorem amid_order {a : FileAction} {r : Except Fault Unit}
    (h : EndsAmid carry (order a) w refused r w') :
    (∃ fs, w.act a = .ok fs ∧ refused = [] ∧ r = .ok () ∧ w' = { w with files := fs }) ∨
      ∃ e, r = .error (.file e) ∧
        ((w.act a = .error e ∧ refused = [] ∧ w' = w) ∨
          (∃ b, (Query.act a).refusal e = some b) ∧ refused = [.act a] ∧ w.Torn (.act a) w') := by
  rcases h with ⟨b, v, hb, rfl, rfl, rfl⟩ | ⟨e, b, v, rest, hb, htorn, rfl, rfl, rfl, rfl⟩
  · rcases World.yields_change hb with ⟨x, fs, hf, rfl, rfl⟩ | ⟨e, he, rfl, rfl⟩
    · obtain ⟨fs', hact, hp⟩ := map_eq_ok hf
      cases hp
      exact Or.inl ⟨fs, hact, rfl, rfl, rfl⟩
    · exact Or.inr ⟨e, rfl, Or.inl ⟨map_eq_error he, rfl, rfl⟩⟩
  · obtain rfl := refusal_act hb
    exact Or.inr ⟨e, rfl, Or.inr ⟨⟨_, hb⟩, rfl, htorn⟩⟩

theorem torn_of_unopened {a : FileAction} (ha : a.opened? = none) (h : w.Torn (.act a) w') :
    w' = w := by
  rcases h with rfl | ⟨a', p, place, old, bytes, he, hp, -⟩
  · rfl
  · cases he
    rw [ha] at hp
    cases hp

/-! ### Directories -/

theorem paved_of_act {d : Path} {fs : Files} (h : w.act (.makeDirectory d) = .ok fs) :
    World.Paved d w { w with files := fs } ∧ ∃ place, World.Located { w with files := fs } d place := by
  obtain ⟨place, hp, hn, rfl⟩ := Files.makeDirectory_eq_ok h
  have hne : w.files.get? place ≠ some .directory := by simp [hn]
  have hlocate := (Files.keeps_set (n := .directory) hne).locate hp
  have hself : (w.files.set place .directory).get? place = some .directory :=
    Files.get?_set_self (Files.ne_nil_of_get? hne)
  refine ⟨⟨rfl, fun q => ?_⟩, place, hlocate, hself⟩
  by_cases hq : q = place
  · subst hq
    exact Or.inr ⟨hn, hself, d.names, List.prefix_rfl, hlocate⟩
  · exact Or.inl (Files.get?_set_ne hq)

theorem amid_settle {d : Path} {e : FileFault} {r : Except Fault Unit}
    (h : EndsAmid carry (settle d e) w refused r w') :
    w' = w ∧ (r = .ok () → ∃ place, w.Located d place) := by
  rcases h.bind with ⟨b, u, before, after, -, hb, hrest⟩ | ⟨e', hb, rfl⟩
  · obtain ⟨rfl, hd⟩ := amid_isDirectory hb
    cases b with
    | false =>
      obtain ⟨-, rfl, rfl⟩ := hrest
      exact ⟨rfl, nofun⟩
    | true =>
      obtain ⟨-, -, rfl⟩ := hrest
      exact ⟨rfl, fun _ => hd rfl⟩
  · exact ⟨(amid_isDirectory hb).1, nofun⟩

/-- What comes of the order to make a directory. -/
theorem amid_makeDirectory_query {d : Path}
    {r : Except Fault (Except FileFault Unit)}
    (h : EndsAmid carry (Work.query (.act (.makeDirectory d))) w refused r w') :
    (r = .ok (.ok ()) ∧ World.Paved d w w' ∧ ∃ place, w'.Located d place) ∨
      ∃ e, r = .ok (.error e) ∧ w' = w := by
  rcases h with ⟨b, v, hb, rfl, rfl, rfl⟩ | ⟨e, b, v, rest, hb, htorn, rfl, rfl, rfl, rfl⟩
  · rcases World.yields_change hb with ⟨x, fs, hf, rfl, rfl⟩ | ⟨e, -, rfl, rfl⟩
    · obtain ⟨fs', hact, hp⟩ := map_eq_ok hf
      cases hp
      exact Or.inl ⟨rfl, paved_of_act hact⟩
    · exact Or.inr ⟨e, rfl, rfl⟩
  · obtain rfl := refusal_act hb
    exact Or.inr ⟨e, rfl, torn_of_unopened rfl htorn⟩

/-- The directory is made, or what is done about the failure is all that is done. -/
theorem amid_bind_makeDirectory {d : Path} {next : Except FileFault Unit → Work Unit}
    {r : Except Fault Unit}
    (h : EndsAmid carry (Work.query (.act (.makeDirectory d)) >>= next) w refused r w')
    (hnext : next (.ok ()) = pure ()) :
    (World.Paved d w w' ∧ ∃ place, w'.Located d place) ∨
      ∃ e later, EndsAmid carry (next (.error e)) w later r w' := by
  rcases h.bind with ⟨b, u, before, after, -, hb, hrest⟩ | ⟨e, hb, -⟩
  · rcases amid_makeDirectory_query hb with ⟨hok, hpaved⟩ | ⟨e, he, rfl⟩
    · cases hok
      rw [hnext] at hrest
      obtain ⟨-, -, rfl⟩ := hrest
      exact Or.inl hpaved
    · cases he
      exact Or.inr ⟨e, after, hrest⟩
  · rcases amid_makeDirectory_query hb with ⟨hok, -⟩ | ⟨e, he, -⟩
    · cases hok
    · cases he

theorem paved_of_makeDirectory {d : Path} {r : Except Fault Unit}
    (h : EndsAmid carry (makeDirectory d) w refused r w') :
    World.Paved d w w' ∧ (r = .ok () → ∃ place, w'.Located d place) := by
  rcases amid_bind_makeDirectory h rfl with ⟨hpaved, hd⟩ | ⟨e, later, hsettle⟩
  · exact ⟨hpaved, fun _ => hd⟩
  · obtain ⟨rfl, hd⟩ := amid_settle hsettle
    exact ⟨.refl _ _, hd⟩

theorem paved_of_ensureNames {absolute : Bool} {names : List String} {r : Except Fault Unit}
    (h : EndsAmid carry (ensureNames absolute names) w refused r w') :
    World.Paved ⟨absolute, names.reverse⟩ w w' ∧
      (r = .ok () → ∃ place, w'.Located ⟨absolute, names.reverse⟩ place) := by
  induction names generalizing w w' refused r with
  | nil => exact paved_of_makeDirectory h
  | cons name above ih =>
    rw [ensureNames] at h
    rcases amid_bind_makeDirectory h rfl with ⟨hpaved, hd⟩ | ⟨e, later, hrest⟩
    · exact ⟨hpaved, fun _ => hd⟩
    · cases e with
      | missing =>
        have hon : ∀ {v : World σ}, World.Paved ⟨absolute, above.reverse⟩ w v →
            World.Paved ⟨absolute, (name :: above).reverse⟩ w v := fun hv => hv.mono rfl (by simp)
        rcases EndsAmid.bind hrest with ⟨x, u, before, after, -, habove, hlast⟩ | ⟨e, habove, rfl⟩
        · obtain ⟨hpaved, hd⟩ := paved_of_makeDirectory hlast
          exact ⟨(hon (ih habove).1).trans hpaved, hd⟩
        · exact ⟨hon (ih habove).1, nofun⟩
      | _ =>
        obtain ⟨rfl, hd⟩ := amid_settle hrest
        exact ⟨.refl _ _, hd⟩

/-- The directory is there if the work returns, and in any case nothing else is new. -/
theorem paved_of_ensureDirectory {d : Path} {r : Except Fault Unit}
    (h : EndsAmid carry (ensureDirectory d) w refused r w') :
    World.Paved d w w' ∧ (r = .ok () → ∃ place, w'.Located d place) := by
  have hnames := paved_of_ensureNames h
  rwa [List.reverse_reverse] at hnames

end Storage

end SchemaDecl
