import SchemaDecl.Files.Tree
import SchemaDecl.Proofs.Returns

/-! What operations do to a tree of files. Each changes the one or two places that it names and no
other; directories stay where they are, so a path that led to a place leads there ever after. -/

namespace SchemaDecl.Files

/-! ### Places -/

section Places

variable {place p : List String} {n : Node} {nodes : List (List String × Node)}

theorem lookup_setNode_self : (setNode place n nodes).lookup place = some n := by
  induction nodes with
  | nil => simp [setNode]
  | cons e rest ih =>
    rw [setNode]
    split
    next => simp
    next h =>
      have hne : (place == e.1) = false := by
        rw [Bool.eq_false_iff]
        intro he
        exact h (by rw [beq_iff_eq.1 he]; exact beq_self_eq_true _)
      rw [List.lookup_cons, hne]
      exact ih

theorem lookup_setNode_ne (h : p ≠ place) : (setNode place n nodes).lookup p = nodes.lookup p := by
  have hp : (p == place) = false := by simpa using h
  induction nodes with
  | nil => simp [setNode, List.lookup_cons, hp]
  | cons e rest ih =>
    rw [setNode]
    split
    next he =>
      rw [List.lookup_cons, List.lookup_cons, hp, beq_iff_eq.1 he, hp]
    next => rw [List.lookup_cons, List.lookup_cons, ih]

variable {fs : Files}

theorem ne_nil_of_get? (h : fs.get? p ≠ some .directory) : p ≠ [] := by
  rintro rfl
  exact h rfl

theorem get?_eq_lookup (h : p ≠ []) : fs.get? p = fs.nodes.lookup p := by
  rw [get?, if_neg (by simpa using h)]

theorem get?_set_self (h : place ≠ []) : (fs.set place n).get? place = some n := by
  rw [get?_eq_lookup h]
  exact lookup_setNode_self

theorem get?_set_ne (h : p ≠ place) : (fs.set place n).get? p = fs.get? p := by
  by_cases hp : p = []
  · subst hp
    rfl
  · rw [get?_eq_lookup hp, get?_eq_lookup hp]
    exact lookup_setNode_ne h

theorem get?_erase_self (h : place ≠ []) : (fs.erase place).get? place = none := by
  rw [get?_eq_lookup h, List.lookup_eq_none_iff]
  intro e he
  rw [erase, List.mem_filter] at he
  have hne : e.1 ≠ place := by simpa using he.2
  simpa using hne.symm

theorem get?_erase_ne (h : p ≠ place) : (fs.erase place).get? p = fs.get? p := by
  by_cases hp : p = []
  · subst hp
    rfl
  · rw [get?_eq_lookup hp, get?_eq_lookup hp, erase]
    induction fs.nodes with
    | nil => rfl
    | cons e rest ih =>
      by_cases he : e.1 = place
      · have hpe : (p == e.1) = false := by simpa [he] using h
        rw [List.filter_cons_of_neg (by simp [he]), ih, List.lookup_cons, hpe]
      · rw [List.filter_cons_of_pos (by simpa using he), List.lookup_cons, List.lookup_cons, ih]

end Places

/-! ### What stays -/

/-- Nothing changes but at some places, and directories come only where nothing was. -/
structure Keeps (touched : List String → Prop) (fs fs' : Files) : Prop where
  directory : ∀ p, fs.get? p = some .directory → fs'.get? p = some .directory
  other : ∀ p, ¬touched p →
    fs'.get? p = fs.get? p ∨ (fs.get? p = none ∧ fs'.get? p = some .directory)

section Keeps

variable {T U : List String → Prop} {fs fs' fs'' : Files}

theorem Keeps.refl (T : List String → Prop) (fs : Files) : Keeps T fs fs where
  directory _ h := h
  other _ _ := Or.inl rfl

theorem Keeps.trans (h : Keeps T fs fs') (h' : Keeps T fs' fs'') : Keeps T fs fs'' where
  directory p hp := h'.directory p (h.directory p hp)
  other p hp := by
    rcases h'.other p hp with h2 | ⟨h2, h3⟩
    · rw [h2]
      exact h.other p hp
    · rcases h.other p hp with h1 | ⟨-, h1⟩
      · exact Or.inr ⟨h1 ▸ h2, h3⟩
      · rw [h1] at h2
        cases h2

theorem Keeps.mono (h : Keeps T fs fs') (hTU : ∀ p, T p → U p) : Keeps U fs fs' where
  directory := h.directory
  other p hp := h.other p fun ht => hp (hTU p ht)

/-- Files at other places keep their bytes. -/
theorem Keeps.file (h : Keeps T fs fs') {p : List String} (hp : ¬T p) {bytes : List UInt8}
    (hf : fs.get? p = some (.file bytes)) : fs'.get? p = some (.file bytes) := by
  rcases h.other p hp with h1 | ⟨h1, -⟩
  · rwa [h1]
  · rw [hf] at h1
    cases h1

/-- A path leads through directories alone. -/
theorem follow_mono (h : ∀ p, fs.get? p = some .directory → fs'.get? p = some .directory)
    {names place goal : List String} (hf : fs.follow place names = .ok goal) :
    fs'.follow place names = .ok goal := by
  induction names generalizing place with
  | nil => exact hf
  | cons name rest ih =>
    rw [Files.follow] at hf ⊢
    cases hp : fs.get? place with
    | none =>
      rw [hp] at hf
      cases hf
    | some n =>
      rw [hp] at hf
      cases n with
      | file bytes => cases hf
      | directory =>
        rw [h _ hp]
        dsimp only at hf ⊢
        split at hf
        next => cases hf
        next hlimit =>
          rw [if_neg hlimit]
          split at hf
          next hup =>
            rw [if_pos hup]
            exact ih hf
          next hup =>
            rw [if_neg hup]
            exact ih hf

theorem locate_mono (h : ∀ p, fs.get? p = some .directory → fs'.get? p = some .directory) {p : Path}
    {place : List String} (hp : fs.locate p = .ok place) : fs'.locate p = .ok place := by
  rw [Files.locate] at hp ⊢
  split at hp
  next => cases hp
  next hnull =>
    rw [if_neg hnull]
    exact follow_mono h hp

/-- A path leads where it led. -/
theorem Keeps.locate (h : Keeps T fs fs') {p : Path} {place : List String}
    (hp : fs.locate p = .ok place) : fs'.locate p = .ok place :=
  locate_mono h.directory hp

theorem keeps_set {place : List String} {n : Node} (hd : fs.get? place ≠ some .directory) :
    Keeps (· = place) fs (fs.set place n) where
  directory p hp := by
    have hne : p ≠ place := by
      rintro rfl
      exact hd hp
    rwa [get?_set_ne hne]
  other p hp := Or.inl (get?_set_ne hp)

theorem keeps_erase {place : List String} (hd : fs.get? place ≠ some .directory) :
    Keeps (· = place) fs (fs.erase place) where
  directory p hp := by
    have hne : p ≠ place := by
      rintro rfl
      exact hd hp
    rwa [get?_erase_ne hne]
  other p hp := Or.inl (get?_erase_ne hp)

end Keeps

/-! ### Following paths -/

theorem follow_append (fs : Files) (place a b : List String) :
    fs.follow place (a ++ b) = (fs.follow place a).bind fun p => fs.follow p b := by
  induction a generalizing place with
  | nil => rfl
  | cons name a ih =>
    rw [List.cons_append, follow, follow]
    split
    · rfl
    · rfl
    · split
      · rfl
      · split
        · exact ih _
        · exact ih _

/-- A path leads to a directory before each of its names. -/
theorem follow_prefix {fs : Files} {place goal : List String} {names rest : List String}
    (h : fs.follow place (names ++ rest) = .ok goal) (hd : fs.get? goal = some .directory) :
    ∃ q, fs.follow place names = .ok q ∧ fs.get? q = some .directory := by
  rw [follow_append] at h
  obtain ⟨q, hq, h⟩ := bind_eq_ok h
  refine ⟨q, hq, ?_⟩
  cases rest with
  | nil =>
    cases h
    exact hd
  | cons name rest =>
    rw [follow] at h
    split at h
    next => cases h
    next => cases h
    next hdir => exact hdir

theorem locate_prefix {fs : Files} {p : Path} {names : List String} {goal : List String}
    (hn : names <+: p.names) (h : fs.locate p = .ok goal) (hd : fs.get? goal = some .directory) :
    ∃ q, fs.locate ⟨p.absolute, names⟩ = .ok q ∧ fs.get? q = some .directory := by
  obtain ⟨rest, hrest⟩ := hn
  rw [locate] at h
  split at h
  next => cases h
  next hnull =>
    rw [← hrest, List.any_append, Bool.or_eq_true, not_or] at hnull
    rw [← hrest] at h
    rw [locate, if_neg hnull.1]
    exact follow_prefix h hd

/-- A path without steps to the directory above leads to the place of its names. -/
theorem follow_eq_append {fs : Files} {place names goal : List String} (hu : ".." ∉ names)
    (h : fs.follow place names = .ok goal) : goal = place ++ names := by
  induction names generalizing place with
  | nil =>
    cases h
    exact (List.append_nil _).symm
  | cons name rest ih =>
    rw [List.mem_cons, not_or] at hu
    rw [follow] at h
    split at h
    next => cases h
    next => cases h
    next =>
      split at h
      next => cases h
      next =>
        rw [if_neg fun he => hu.1 (beq_iff_eq.1 he).symm] at h
        rw [ih hu.2 h, List.append_assoc, List.singleton_append]

theorem locate_eq_names {fs : Files} {p : Path} {goal : List String} (hu : ".." ∉ p.names)
    (h : fs.locate p = .ok goal) : goal = p.names := by
  rw [locate] at h
  split at h
  next => cases h
  next => exact follow_eq_append hu h

/-- What a name leads to from the directory before it. -/
theorem locate_concat {fs : Files} {d : Path} {name : String} {goal : List String}
    (h : fs.locate ⟨d.absolute, d.names ++ [name]⟩ = .ok goal) :
    ∃ place, fs.locate d = .ok place ∧ fs.get? place = some .directory ∧
      goal = if name = ".." then place.dropLast else place ++ [name] := by
  rw [locate] at h
  split at h
  next => cases h
  next hnull =>
    have hd : (d.names.any fun n => n.toList.contains '\x00') = false := by
      rw [List.any_append, Bool.or_eq_true, not_or] at hnull
      simpa using hnull.1
    rw [follow_append] at h
    obtain ⟨place, hp, h⟩ := bind_eq_ok h
    refine ⟨place, by rw [locate, hd]; exact hp, ?_⟩
    rw [follow] at h
    split at h
    next => cases h
    next => cases h
    next hdir =>
      refine ⟨hdir, ?_⟩
      split at h
      next => cases h
      next =>
        split at h
        next hup =>
          cases h
          rw [if_pos (beq_iff_eq.1 hup)]
        next hup =>
          cases h
          rw [if_neg fun he => hup (beq_iff_eq.2 he)]

/-- The entry of a directory lies in the place that the directory has. -/
theorem locate_entry {fs : Files} {d : Path} {name : String} {goal : List String} (hu : name ≠ "..")
    (h : fs.locate ⟨d.absolute, d.names ++ [name]⟩ = .ok goal) :
    ∃ place, fs.locate d = .ok place ∧ fs.get? place = some .directory ∧ goal = place ++ [name] := by
  obtain ⟨place, hp, hdir, rfl⟩ := locate_concat h
  exact ⟨place, hp, hdir, if_neg hu⟩

/-! ### Operations -/

section Operations

variable {fs fs' : Files} {p : Path}

theorem read_eq_ok {bytes : List UInt8} (h : fs.read p = .ok bytes) :
    ∃ place, fs.locate p = .ok place ∧ fs.get? place = some (.file bytes) := by
  obtain ⟨place, hp, h⟩ := bind_eq_ok h
  refine ⟨place, hp, ?_⟩
  split at h
  next => cases h
  next => cases h
  next hf =>
    cases h
    exact hf

theorem read_of_locate {place : List String} {bytes : List UInt8} (hp : fs.locate p = .ok place)
    (hn : fs.get? place = some (.file bytes)) : fs.read p = .ok bytes := by
  rw [read, hp]
  simp only [Except.bind, bind, hn]
  rfl

/-- A file was put where no directory is. -/
theorem write_eq_ok {bytes : List UInt8} (h : fs.write p bytes = .ok fs') :
    ∃ place, fs.locate p = .ok place ∧ fs.get? place ≠ some .directory ∧
      fs' = fs.set place (.file bytes) := by
  obtain ⟨place, hp, h⟩ := bind_eq_ok h
  refine ⟨place, hp, ?_⟩
  split at h
  next => cases h
  next hd =>
    cases h
    exact ⟨hd, rfl⟩

theorem write_of_locate {place : List String} {old bytes : List UInt8}
    (hp : fs.locate p = .ok place) (hf : fs.get? place = some (.file old)) :
    fs.write p bytes = .ok (fs.set place (.file bytes)) := by
  rw [write, hp]
  simp only [bind, Except.bind, hf]
  rfl

theorem makeDirectory_eq_ok (h : fs.makeDirectory p = .ok fs') :
    ∃ place, fs.locate p = .ok place ∧ fs.get? place = none ∧ fs' = fs.set place .directory := by
  obtain ⟨place, hp, h⟩ := bind_eq_ok h
  refine ⟨place, hp, ?_⟩
  split at h
  next => cases h
  next hn =>
    cases h
    exact ⟨hn, rfl⟩

/-- The file has left its place and is at the other one. -/
theorem rename_eq_ok {q : Path} (h : fs.rename p q = .ok fs') :
    ∃ place goal bytes, fs.locate p = .ok place ∧ fs.locate q = .ok goal ∧
      fs.get? place = some (.file bytes) ∧ fs.get? goal ≠ some .directory ∧
      fs' = (fs.erase place).set goal (.file bytes) := by
  obtain ⟨place, hp, h⟩ := bind_eq_ok h
  obtain ⟨goal, hq, h⟩ := bind_eq_ok h
  split at h
  next => cases h
  next => cases h
  next => cases h
  next bytes hf hd =>
    cases h
    exact ⟨place, goal, bytes, hp, hq, hf, hd, rfl⟩

theorem remove_of_locate {place : List String} {bytes : List UInt8}
    (hp : fs.locate p = .ok place) (hf : fs.get? place = some (.file bytes)) :
    fs.remove p = .ok (fs.erase place) := by
  rw [remove, hp]
  simp only [bind, Except.bind, hf]
  rfl

end Operations

end SchemaDecl.Files
