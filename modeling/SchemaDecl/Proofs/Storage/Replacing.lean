import SchemaDecl.Proofs.Storage.Lock
import SchemaDecl.Proofs.Storage.Paving

/-! Replacing a file as a whole. Work that returns has put the text where it belongs; on the way it made
directories where nothing was, and used a temporary file beside the one that was to be replaced. No
other file is changed. If steps are refused on the way, the temporary file is removed and nothing is
changed, unless that file could be neither filled nor closed: then it is left over. -/

namespace SchemaDecl.Storage

open SchemaDecl.Path (Plain)
open World (Ends EndsAmid)

variable {σ : Type} {carry : Transport σ} {v w w' : World σ} {refused : List Query}

/-! ### Paths in a world -/

theorem absolute_place (hw : w.directory.absolute = true) (p : Path) :
    (w.place p).absolute = true := by
  rw [World.place, Path.join]
  split
  next h => exact h
  next => exact hw

theorem place_of_absolute {p : Path} (hp : p.absolute = true) : w.place p = p := by
  rw [World.place, Path.join, if_pos hp]

theorem absolute_entry {d : Path} {name : String} (hn : Plain name) :
    (d.entry name).absolute = d.absolute := by
  rw [Path.entry_plain hn]

/-- One file in the place of another, which is not a directory. -/
theorem keeps_rename {fs : Files} {place goal : List String} {bytes : List UInt8}
    (hf : fs.get? place = some (.file bytes)) (hg : fs.get? goal ≠ some .directory) :
    Files.Keeps (fun p => p = place ∨ p = goal) fs ((fs.erase place).set goal (.file bytes)) := by
  have hplace : fs.get? place ≠ some .directory := by simp [hf]
  have hgoal : (fs.erase place).get? goal ≠ some .directory := by
    by_cases he : goal = place
    · rw [he, Files.get?_erase_self (Files.ne_nil_of_get? hplace)]
      simp
    · rwa [Files.get?_erase_ne he]
  exact ((Files.keeps_erase hplace).mono fun _ => Or.inl).trans
    ((Files.keeps_set hgoal).mono fun _ => Or.inr)

/-! ### The temporary file -/

/-- A world with one more file, at a place where nothing was. -/
structure Holding (v : World σ) (p : Path) (place : List String) (bytes : List UInt8) (w : World σ) :
    Prop where
  new : v.files.get? place = none
  locate : w.files.locate (w.place p) = .ok place
  self : w.files.get? place = some (.file bytes)
  alters : World.Alters (· = place) v w

section Holding

variable {temporary : Path} {place : List String} {old bytes : List UInt8} {r : Except Fault Unit}

theorem Holding.not_directory (h : Holding v temporary place bytes w) :
    w.files.get? place ≠ some .directory := by
  simp [h.self]

theorem Holding.ne_nil (h : Holding v temporary place bytes w) : place ≠ [] :=
  Files.ne_nil_of_get? h.not_directory

theorem alters_set {fs : Files} {n : Node} (hw : w.files = fs) (hd : fs.get? place ≠ some .directory) :
    World.Alters (· = place) w { w with files := fs.set place n } where
  directory := rfl
  stays q hq := (Files.keeps_set hd).directory q (hw ▸ hq)
  other q hq := (Files.get?_set_ne hq).trans (by rw [hw])

/-- The bytes of the file may become others. -/
theorem Holding.set (h : Holding v temporary place old w) (bytes : List UInt8) :
    Holding v temporary place bytes { w with files := w.files.set place (.file bytes) } where
  new := h.new
  locate := (Files.keeps_set h.not_directory).locate h.locate
  self := Files.get?_set_self h.ne_nil
  alters := h.alters.trans (alters_set rfl h.not_directory)

theorem Holding.torn (h : Holding v temporary place old w) {a : FileAction}
    (ha : a.opened? = some temporary) (ht : w.Torn (.act a) w') :
    ∃ bytes, Holding v temporary place bytes w' := by
  rcases ht with rfl | ⟨a', p, q, old', bytes, he, hp, hq, -, rfl⟩
  · exact ⟨old, h⟩
  · cases he
    rw [ha] at hp
    cases hp
    rw [h.locate] at hq
    cases hq
    exact ⟨bytes, h.set bytes⟩

/-- The files as they are allow every step on a file that is open, but it may be refused. -/
theorem Holding.order (h : Holding v temporary place old w) {a : FileAction}
    (ha : a.opened? = some temporary) (hr : EndsAmid carry (order a) w refused r w') :
    (∃ fs, w.act a = .ok fs ∧ refused = [] ∧ r = .ok () ∧ w' = { w with files := fs }) ∨
      (∃ e, r = .error e) ∧ refused = [.act a] ∧ ∃ bytes, Holding v temporary place bytes w' := by
  rcases amid_order hr with hdone | ⟨e, rfl, ⟨hact, -⟩ | ⟨-, rfl, htorn⟩⟩
  · exact Or.inl hdone
  · cases a with
    | write p bytes =>
      cases ha
      rw [World.act, Files.write_of_locate h.locate h.self] at hact
      cases hact
    | flush => cases hact
    | sync => cases hact
    | close => cases hact
    | _ => cases ha
  · exact Or.inr ⟨⟨_, rfl⟩, rfl, h.torn ha htorn⟩

/-- Work goes on after a step on the open file unless that is refused. -/
theorem Holding.order_bind (h : Holding v temporary place old w) {a : FileAction}
    (ha : a.opened? = some temporary) {rest : Work Unit}
    (hr : EndsAmid carry (Storage.order a >>= fun _ => rest) w refused r w') :
    (∃ fs, w.act a = .ok fs ∧ EndsAmid carry rest { w with files := fs } refused r w') ∨
      (∃ e, r = .error e) ∧ refused = [.act a] ∧ ∃ bytes, Holding v temporary place bytes w' := by
  rcases hr.bind with ⟨⟨⟩, u, before, after, rfl, hstep, hrest⟩ | ⟨e, hstep, rfl⟩
  · rcases h.order ha hstep with ⟨fs, hact, rfl, -, rfl⟩ | ⟨⟨e, he⟩, -⟩
    · exact Or.inl ⟨fs, hact, hrest⟩
    · cases he
  · rcases h.order ha hstep with ⟨fs, -, -, hok, -⟩ | ⟨-, hrefused⟩
    · cases hok
    · exact Or.inr ⟨⟨e, rfl⟩, hrefused⟩

/-- A step by which a file is filled. -/
def Fills (p : Path) (a : FileAction) : Prop :=
  a.opened? = some p ∧ a ≠ .close p

/-- The file holds the text, or a step was refused. -/
theorem Holding.fill (h : Holding v temporary place old w) {text : String}
    (hr : EndsAmid carry (fill temporary text) w refused r w') :
    (r = .ok () ∧ refused = [] ∧ Holding v temporary place (Text.encode text) w') ∨
      (∃ e, r = .error e) ∧ (∃ a, refused = [.act a] ∧ Fills temporary a) ∧
        ∃ bytes, Holding v temporary place bytes w' := by
  rcases h.order_bind rfl hr with ⟨fs, hact, hr⟩ | ⟨hfault, hrefused, hheld⟩
  swap
  · exact Or.inr ⟨hfault, ⟨_, hrefused, rfl, nofun⟩, hheld⟩
  obtain ⟨goal, hgoal, -, rfl⟩ := Files.write_eq_ok hact
  rw [h.locate] at hgoal
  cases hgoal
  have hwritten := h.set (Text.encode text)
  rcases hwritten.order_bind rfl hr with ⟨fs, hact, hr⟩ | ⟨hfault, hrefused, hheld⟩
  swap
  · exact Or.inr ⟨hfault, ⟨_, hrefused, rfl, nofun⟩, hheld⟩
  cases hact
  rcases hwritten.order rfl hr with ⟨fs, hact, rfl, rfl, rfl⟩ | ⟨hfault, hrefused, hheld⟩
  · cases hact
    exact Or.inl ⟨rfl, rfl, hwritten⟩
  · exact Or.inr ⟨hfault, ⟨_, hrefused, rfl, nofun⟩, hheld⟩

/-- When the file is removed, nothing is left of it. -/
theorem Holding.discard (h : Holding v temporary place old w)
    (hr : EndsAmid carry (discard temporary) w refused r w') :
    r = .ok () ∧ refused = [] ∧ World.Alters (fun _ => False) v w' := by
  have hkind : w.files.kind (w.place temporary) = .ok (some .file) :=
    kind_of_read (Files.read_of_locate h.locate h.self)
  rcases hr.bind with ⟨k, u, before, after, rfl, hk, hrest⟩ | ⟨e, hk, rfl⟩
  · obtain ⟨rfl, hval, rfl⟩ := amid_kind hk
    rw [hkind] at hval
    cases hval
    have hremove := Files.remove_of_locate h.locate h.self
    rcases amid_order hrest with ⟨fs, hact, rfl, rfl, rfl⟩ | ⟨e, rfl, ⟨hact, -⟩ | ⟨⟨b, hb⟩, -⟩⟩
    · rw [World.act, hremove] at hact
      cases hact
      have hback : ∀ q, (u.files.erase place).get? q = v.files.get? q := by
        intro q
        by_cases hq : q = place
        · rw [hq, Files.get?_erase_self h.ne_nil, h.new]
        · rw [Files.get?_erase_ne hq, h.alters.other q hq]
      exact ⟨rfl, rfl, h.alters.directory, fun q hq => (hback q).trans hq, fun q _ => hback q⟩
    · rw [World.act, hremove] at hact
      cases hact
    · cases hb
  · obtain ⟨-, hval, -⟩ := amid_kind hk
    rw [hkind] at hval
    cases hval

/-- A world in which the file holds the text and nothing else differs. -/
structure Placed (v : World σ) (p : Path) (goal : List String) (bytes : List UInt8) (w : World σ) :
    Prop where
  locate : w.files.locate (w.place p) = .ok goal
  self : w.files.get? goal = some (.file bytes)
  alters : World.Alters (· = goal) v w

/-- The file takes its place, or lies where it was. -/
theorem Holding.placed (h : Holding v temporary place bytes w) {p : Path}
    (hr : EndsAmid carry (do
      Storage.order (.close temporary)
      Storage.order (.rename temporary p)) w refused r w') :
    (r = .ok () ∧ p.isNamed ∧ ∃ goal, Placed v p goal bytes w') ∨
      (∃ e, r = .error e) ∧ ∃ bytes, Holding v temporary place bytes w' := by
  rcases h.order_bind rfl hr with ⟨fs, hact, hr⟩ | ⟨hfault, -, hheld⟩
  swap
  · exact Or.inr ⟨hfault, hheld⟩
  cases hact
  rcases amid_order hr with ⟨fs, hact, rfl, rfl, rfl⟩ | ⟨e, rfl, ⟨-, -, rfl⟩ | ⟨-, -, htorn⟩⟩
  · rw [World.act] at hact
    split at hact
    next hnamed =>
      obtain ⟨q, goal, bytes', hq, hgoal, hf, hd, rfl⟩ := Files.rename_eq_ok hact
      rw [h.locate] at hq
      cases hq
      rw [h.self] at hf
      cases hf
      have hrenamed := keeps_rename h.self hd
      refine Or.inl ⟨rfl, hnamed, goal, hrenamed.locate hgoal,
        Files.get?_set_self (Files.ne_nil_of_get? hd), h.alters.directory,
        fun q hq => hrenamed.directory q (h.alters.stays q hq), fun q hq => ?_⟩
      rw [Files.get?_set_ne hq]
      by_cases hqp : q = place
      · rw [hqp, Files.get?_erase_self h.ne_nil, h.new]
      · rw [Files.get?_erase_ne hqp, h.alters.other q hqp]
    next => cases hact
  · exact Or.inr ⟨⟨_, rfl⟩, bytes, h⟩
  · rw [torn_of_unopened rfl htorn]
    exact Or.inr ⟨⟨_, rfl⟩, bytes, h⟩

end Holding

/-! ### Replacing -/

variable {p : Path} {text : String} {r : Except Fault Unit}

/-- A path with a name leads on from the one before it. -/
theorem place_concat (hn : p.names ≠ []) :
    w.place p = ⟨(w.place p.parent).absolute, (w.place p.parent).names ++ [p.name]⟩ := by
  have hnames : p.names.dropLast ++ [p.name] = p.names := by
    rw [Path.name, List.getLast?_eq_getLast_of_ne_nil hn, Option.getD_some, List.dropLast_append_getLast]
  rw [World.place, World.place, Path.join, Path.join, Path.parent]
  split
  · rw [hnames]
  · rw [List.append_assoc, hnames]

/-- A path leads to no temporary file beside the file that it names. -/
theorem ne_temporary {fs : Files} {place goal : List String} {k : Nat}
    (hd : fs.locate (w.place p.parent) = .ok place) (hg : fs.locate (w.place p) = .ok goal) :
    goal ≠ place ++ [Files.temporaryName p.name k] := by
  have hlong : ∀ q : List String, q.length ≤ place.length →
      q ≠ place ++ [Files.temporaryName p.name k] := by
    rintro q hq rfl
    rw [List.length_append, List.length_singleton] at hq
    omega
  by_cases hn : p.names = []
  · have hsame : p.parent = p := by
      rw [Path.parent, hn, List.dropLast_nil, ← hn]
    rw [hsame, hg] at hd
    cases hd
    exact hlong _ (Nat.le_refl _)
  · rw [place_concat hn] at hg
    obtain ⟨place', hd', -, rfl⟩ := Files.locate_concat hg
    rw [hd] at hd'
    cases hd'
    split
    next => exact hlong _ (by simp)
    next =>
      intro he
      have hname := congrArg String.length (List.singleton_inj.1 (List.append_cancel_left he))
      simp only [Files.temporaryName, String.length_append] at hname
      have hpoint : ".".length = 1 := by decide
      omega

/-- A temporary file could neither be filled nor be closed. -/
def Stranded (refused : List Query) : Prop :=
  ∃ p a, Fills p a ∧ .act a ∈ refused ∧ .act (.close p) ∈ refused

/-- What is left to do once there is a temporary file. -/
def complete (temporary p : Path) (text : String) : Work Unit := do
  match ← Work.attempt (fill temporary text) with
  | .error e =>
    order (.close temporary)
    discard temporary
    Work.fail e
  | .ok () =>
    let placed ← Work.attempt do
      order (.close temporary)
      order (.rename temporary p)
    match placed with
    | .error e =>
      discard temporary
      Work.fail e
    | .ok () => pure ()

theorem replaceText_eq (p : Path) (text : String) :
    replaceText p text = (do
      ensureDirectory p.parent
      let temporary ← Work.ofAnswer (← Work.query (.createTemporary p.parent p.name))
      complete temporary p text) :=
  rfl

section Complete

variable {temporary : Path} {place : List String} {bytes : List UInt8}

/-- After a fault the file is removed and the fault is passed on. -/
theorem Holding.undone (h : Holding v temporary place bytes w) {e : Fault}
    (hr : EndsAmid carry (do
      Storage.discard temporary
      Work.fail e) w refused r w') :
    r = .error e ∧ World.Alters (fun _ => False) v w' := by
  rcases hr.bind with ⟨⟨⟩, u, before, after, -, hdiscard, -, rfl, rfl⟩ | ⟨e', hdiscard, -⟩
  · exact ⟨rfl, (h.discard hdiscard).2.2⟩
  · cases (h.discard hdiscard).1

/-- The file is replaced, or all is as it was, or the temporary file is left over. -/
theorem Holding.complete (h : Holding v temporary place bytes w)
    (hr : EndsAmid carry (Storage.complete temporary p text) w refused r w') :
    (r = .ok () ∧ p.isNamed ∧ ∃ goal, Placed v p goal (Text.encode text) w') ∨
      (∃ e, r = .error e) ∧
        (World.Alters (fun _ => False) v w' ∨
          Stranded refused ∧ ∃ bytes, Holding v temporary place bytes w') := by
  obtain ⟨result, u, before, after, rfl, hfill, hrest⟩ := hr.attempt_bind
  rcases h.fill hfill with ⟨rfl, -, hfilled⟩ | ⟨⟨e, rfl⟩, ⟨a, rfl, hfills⟩, bytes, hheld⟩
  · obtain ⟨result, u', _, _, -, hplace, hend⟩ := EndsAmid.attempt_bind hrest
    rcases hfilled.placed hplace with
      ⟨rfl, hplaced⟩ | ⟨⟨e, rfl⟩, bytes, hheld⟩
    · obtain ⟨-, rfl, rfl⟩ := hend
      exact Or.inl ⟨rfl, hplaced⟩
    · obtain ⟨rfl, hsame⟩ := hheld.undone hend
      exact Or.inr ⟨⟨e, rfl⟩, Or.inl hsame⟩
  · -- the file is closed first, which may be refused once more
    rcases hheld.order_bind rfl hrest with ⟨fs, hact, hend⟩ | ⟨hfault, rfl, hheld⟩
    · cases hact
      obtain ⟨rfl, hsame⟩ := hheld.undone hend
      exact Or.inr ⟨⟨e, rfl⟩, Or.inl hsame⟩
    · exact Or.inr ⟨hfault, Or.inr ⟨⟨temporary, a, hfills, by simp, by simp⟩, hheld⟩⟩

end Complete

/-- A file was created where nothing was. -/
theorem holding_of_createTemporary (hv : v.directory.absolute = true) (hp : '/' ∉ p.name.toList)
    {temporary : Path} {fs : Files}
    (h : v.files.createTemporary (v.place p.parent) p.name = .ok (temporary, fs)) :
    ∃ place k, v.Located p.parent place ∧
      Holding v temporary (place ++ [Files.temporaryName p.name k]) [] { v with files := fs } := by
  obtain ⟨place, k, hd, hdir, rfl, htemp, hfree, rfl⟩ := Files.createTemporary_eq_ok hp h
  have hne : v.files.get? (place ++ [Files.temporaryName p.name k]) ≠ some .directory := by simp [hfree]
  have habsolute : ((v.place p.parent).entry (Files.temporaryName p.name k)).absolute = true := by
    rw [absolute_entry (Files.plain_temporaryName hp k)]
    exact absolute_place hv _
  refine ⟨place, k, ⟨hd, hdir⟩, hfree, ?_, Files.get?_set_self (by simp), alters_set rfl hne⟩
  rw [place_of_absolute habsolute]
  exact (Files.keeps_set hne).locate htemp

/-- What comes of replacing a file: it is replaced, or nothing but directories is new, or a temporary
file is left over that could be neither filled nor closed. -/
theorem amid_replaceText (hw : w.directory.absolute = true) (hp : '/' ∉ p.name.toList)
    (h : EndsAmid carry (replaceText p text) w refused r w') :
    ((∃ e, r = .error e) ∧ World.Paved p.parent w w') ∨
      ∃ v place, World.Paved p.parent w v ∧ v.Located p.parent place ∧
        ((r = .ok () ∧ p.isNamed ∧ ∃ goal, Placed v p goal (Text.encode text) w') ∨
          (∃ e, r = .error e) ∧ Stranded refused ∧ ∃ temporary k bytes,
            Holding v temporary (place ++ [Files.temporaryName p.name k]) bytes w') := by
  rw [replaceText_eq] at h
  rcases h.bind with ⟨⟨⟩, v, before, after, rfl, hdir, hrest⟩ | ⟨e, hdir, rfl⟩
  swap
  · exact Or.inl ⟨⟨e, rfl⟩, (paved_of_ensureDirectory hdir).1⟩
  obtain ⟨hpaved, -⟩ := paved_of_ensureDirectory hdir
  rcases hrest with ⟨b, u, hb, hrest⟩ | ⟨e, b, u, rest, hb, htorn, rfl, hrest⟩
  swap
  · cases hb
    obtain ⟨-, rfl, rfl⟩ := hrest
    rcases htorn with rfl | ⟨a, _, _, _, _, ha, -⟩
    · exact Or.inl ⟨⟨_, rfl⟩, hpaved⟩
    · cases ha
  rcases World.yields_change hb with ⟨temporary, fs, hc, rfl, rfl⟩ | ⟨e, -, rfl, rfl⟩
  swap
  · obtain ⟨-, rfl, rfl⟩ := hrest
    exact Or.inl ⟨⟨_, rfl⟩, hpaved⟩
  obtain ⟨place, k, hd, hcreated⟩ := holding_of_createTemporary (by rwa [hpaved.directory]) hp hc
  rcases hcreated.complete hrest with
    hdone | ⟨hfault, hsame | ⟨hstranded, bytes, hheld⟩⟩
  · exact Or.inr ⟨v, place, hpaved, hd, Or.inl hdone⟩
  · exact Or.inl ⟨hfault, ⟨hsame.directory.trans hpaved.directory, fun q => hpaved.pavedAt hsame id⟩⟩
  · refine Or.inr ⟨v, place, hpaved, hd, Or.inr ⟨hfault, ?_, temporary, k, bytes, hheld⟩⟩
    obtain ⟨q, a, hfills, ha, hclose⟩ := hstranded
    exact ⟨q, a, hfills, List.mem_append_right _ ha, List.mem_append_right _ hclose⟩

/-! ### Replacing without refusals -/

/-- A path of an entry leads to the entry. -/
theorem eq_of_locate_entry {d : Path} {name : String} {place goal : List String} (hn : Plain name)
    (hd : w.Located d place) (hg : w.files.locate (w.place (d.entry name)) = .ok goal) :
    goal = place ++ [name] := by
  have hentry : w.place (d.entry name) = (w.place d).entry name := Path.join_entry hn _ _
  obtain ⟨place', hd', -, rfl⟩ := Files.locate_entry hn.notAbove (Path.entry_plain hn _ ▸ hentry ▸ hg)
  rw [hd.locate] at hd'
  cases hd'
  rfl

/-- The file holds the text, and no other file is changed. -/
theorem replaced (hw : w.directory.absolute = true) {d : Path} {name text : String} (hn : Plain name)
    (h : Ends carry (replaceText (d.entry name) text) w (.ok ()) w') :
    ∃ v place, World.Paved d w v ∧ v.Located d place ∧
      Placed v (d.entry name) (place ++ [name]) (Text.encode text) w' := by
  have hname : (d.entry name).name = name := Path.name_entry hn d
  have hparent : (d.entry name).parent = d := Path.parent_entry hn d
  have hslash : '/' ∉ (d.entry name).name.toList := by
    rw [hname]
    exact hn.noSlash
  rcases amid_replaceText hw hslash (World.endsAmid_of_ends h) with
    ⟨⟨e, he⟩, -⟩ | ⟨v, place, hpaved, hd, ⟨-, -, goal, hplaced⟩ | ⟨⟨e, he⟩, -⟩⟩
  · cases he
  · rw [hparent] at hpaved hd
    obtain rfl := eq_of_locate_entry hn (hplaced.alters.keeps.located hd) hplaced.locate
    exact ⟨v, place, hpaved, hd, hplaced⟩
  · cases he

/-- In a directory that is there nothing changes but the file. -/
theorem replaced_in (hw : w.directory.absolute = true) {d : Path} {name text : String}
    {place : List String} (hd : w.Located d place) (hn : Plain name)
    (h : Ends carry (replaceText (d.entry name) text) w (.ok ()) w') :
    Placed w (d.entry name) (place ++ [name]) (Text.encode text) w' := by
  obtain ⟨v, place', hpaved, hd', hplaced⟩ := replaced hw hn h
  obtain rfl := (hpaved.keeps.located hd).unique hd'
  have hsame : World.Alters (· = place ++ [name]) w v :=
    ⟨hpaved.directory, hpaved.keeps.files.directory, fun q _ => hpaved.same hd q⟩
  exact ⟨hplaced.locate, hplaced.self, hsame.trans hplaced.alters⟩

end SchemaDecl.Storage
