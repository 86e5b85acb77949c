import SchemaDecl.Proofs.Storage.Replacing

/-! Replacing a file when the device may refuse any step. If the work returns, the file holds the text; if
not, everything is as it was. Directories that were made on the way stay in both cases, and may be what
the path leads to when it steps back over them. A temporary file is left over when it could not be filled
and then could not be closed either, since it is only removed after it was closed. -/

namespace SchemaDecl.Storage

open World (EndsAmid)

variable {σ : Type} {carry : Transport σ} {w w' : World σ} {refused : List Query} {p : Path}

/-! ### What is left afterwards -/

theorem place_names (w : World σ) (p : Path) :
    (w.place p).names = (if p.absolute then [] else w.directory.names) ++ p.names := by
  rw [World.place, Path.join]
  split <;> simp

/-- The directory that a path lies in is there, or the path has names and no step to the directory
above, which could lead it through directories that are made on the way. -/
def Straight (w : World σ) (p : Path) : Prop :=
  (∃ place, w.Located p.parent place) ∨ p.names ≠ [] ∧ ".." ∉ (w.place p).names

/-- The place that the path leads to is not on the way there. -/
theorem get?_of_paved (h : World.Paved p.parent w w') (hs : Straight w p) {goal : List String}
    (hg : w'.files.locate (w'.place p) = .ok goal) : w'.files.get? goal = w.files.get? goal := by
  rcases hs with ⟨place, hd⟩ | ⟨hn, hup⟩
  · exact h.same hd goal
  · refine (h.other goal).resolve_right ?_
    rintro ⟨-, -, names, hnames, hway⟩
    rw [h.keeps.place_eq] at hg hway
    have hsub : (w.place ⟨p.parent.absolute, names⟩).names <+: (w.place p).names := by
      rw [place_names, place_names]
      exact (List.prefix_append_right_inj _).2 (hnames.trans (List.dropLast_prefix _))
    rw [Files.locate_eq_names hup hg] at hway
    have hsame := congrArg List.length (Files.locate_eq_names (fun hm => hup (hsub.subset hm)) hway)
    rw [place_names, place_names, List.length_append, List.length_append] at hsame
    have hshort : names.length ≤ p.names.dropLast.length := hnames.length_le
    have hlong := List.length_pos_of_ne_nil hn
    rw [List.length_dropLast] at hshort
    have hsame' : p.names.length = names.length := Nat.add_left_cancel hsame
    omega

/-- What an attempt to replace a file leaves behind when it fails: every file is as it was, and so is
what the path leads to; new are only directories on the way, and a temporary file that could be neither
filled nor closed. -/
structure Kept (p : Path) (refused : List Query) (w w' : World σ) : Prop where
  leads : ∀ q place, w.files.locate (w.place q) = .ok place → w'.files.locate (w'.place q) = .ok place
  file : ∀ q bytes, w.files.get? q = some (.file bytes) → w'.files.get? q = some (.file bytes)
  goal : Straight w p → ∀ goal, w'.files.locate (w'.place p) = .ok goal →
    w'.files.get? goal = w.files.get? goal
  paved : ¬Stranded refused → World.Paved p.parent w w'

/-- What is left when a file was replaced: it holds the text, and elsewhere only directories on the way
are new. -/
structure Replaced (p : Path) (text : String) (goal : List String) (w w' : World σ) : Prop where
  locate : w'.files.locate (w'.place p) = .ok goal
  file : w'.files.get? goal = some (.file (Text.encode text))
  other : ∀ q, q ≠ goal → World.PavedAt p.parent w w' q

/-- A world with a file at the top. -/
def desk : World Unit where
  files := ⟨[(["A"], .file (Text.encode "old"))]⟩
  net := ()

/-- What comes of replacing a file in that world when some steps are refused. -/
def atDesk (chosen : Query → Option FileFault) (s : String) :
    List Query × Except Fault Unit × World Unit :=
  World.performAmid offline chosen (replaceText (Path.ofText s) "new") desk

theorem endsAmid_atDesk (chosen : Query → Option FileFault) (s : String) :
    EndsAmid offline (replaceText (Path.ofText s) "new") desk (atDesk chosen s).1 (atDesk chosen s).2.1
      (atDesk chosen s).2.2 :=
  World.endsAmid_performAmid offline chosen _ desk

theorem exists_error {r : Except Fault Unit} (h : r.isOk = false) : ∃ e, r = .error e := by
  cases r with
  | ok => cases h
  | error e => exact ⟨e, rfl⟩

/-- A device that takes no data. -/
def full : Query → Option FileFault
  | .act (.flush _) => some .device
  | _ => none

/-- A device that takes no data and cannot close a file either. -/
def broken : Query → Option FileFault
  | .act (.flush _) | .act (.close _) => some .device
  | _ => none

/-- Then the temporary file is left over. -/
example : (atDesk broken "A").2.2.files.get? [".A.10000000.tmp"] = some (.file (Text.encode "new")) := by
  decide +kernel

end SchemaDecl.Storage
