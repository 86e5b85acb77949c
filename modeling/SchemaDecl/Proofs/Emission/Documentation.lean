import Mathlib.Data.List.Infix
import SchemaDecl.Proofs.Emission.Imports
import SchemaDecl.Proofs.Json.OneLine
import SchemaDecl.Proofs.Text.Lines

/-! What stands in the documentation of declarations and fields. Descriptions are cut into lines and
examples are written on one line, but a type and a format are shown as they are. -/

namespace SchemaDecl

/-- Whether a word stands in one of the lines. -/
def StandsIn (word : List Char) (ls : List String) : Prop :=
  ∃ l ∈ ls, word <:+: l.toList

instance (word : List Char) (ls : List String) : Decidable (StandsIn word ls) :=
  List.decidableBEx _ _

/-- A line without a line break in it. -/
def Unbroken (l : String) : Prop :=
  ∀ c ∈ l.toList, c ≠ '\n' ∧ c ≠ '\r'

instance (l : String) : Decidable (Unbroken l) :=
  List.decidableBAll _ _

theorem unbroken_of_noControls {s : String} (h : NoControls s.toList) : Unbroken s := by
  intro c hc
  have hle := h c hc
  constructor
  · rintro rfl
    exact absurd hle (by decide)
  · rintro rfl
    exact absurd hle (by decide)

theorem unbroken_of_mem_lines {s l : String} (h : l ∈ Text.lines s) : Unbroken l := by
  intro c hc
  have hend := Text.lineEnd_notMem_lines h c hc
  constructor
  · rintro rfl
    exact absurd hend (by decide)
  · rintro rfl
    exact absurd hend (by decide)

theorem unbroken_append {s t : String} : Unbroken (s ++ t) ↔ Unbroken s ∧ Unbroken t := by
  rw [Unbroken, String.toList_append, List.forall_mem_append]
  rfl

section StandsIn

variable {word : List Char}

@[simp] theorem standsIn_nil : ¬StandsIn word [] := by
  simp [StandsIn]

@[simp] theorem standsIn_cons {l : String} {ls : List String} :
    StandsIn word (l :: ls) ↔ word <:+: l.toList ∨ StandsIn word ls :=
  List.exists_mem_cons_iff _ _ _

@[simp] theorem standsIn_append {ls ks : List String} :
    StandsIn word (ls ++ ks) ↔ StandsIn word ls ∨ StandsIn word ks := by
  simp only [StandsIn, List.mem_append, or_and_right, exists_or]

/-- Characters that stay together: no blank is among them, and no bracket of those that are put around
formats. -/
structure Solid (word : List Char) : Prop where
  ne_nil : word ≠ []
  blank_notMem : ∀ c ∈ word, Text.isBlank c = false
  opening_notMem : '(' ∉ word
  closing_notMem : ')' ∉ word

namespace Solid

theorem space_notMem (h : Solid word) : ' ' ∉ word :=
  fun hm => absurd (h.blank_notMem ' ' hm) (by decide)

theorem not_infix_empty (h : Solid word) : ¬word <:+: "".toList := by
  simpa using h.ne_nil

theorem isLineEnd_eq_false (h : Solid word) : ∀ c ∈ word, Text.isLineEnd c = false := by
  intro c hc
  have hblank := h.blank_notMem c hc
  rw [← Bool.not_eq_true]
  intro hend
  simp only [Text.isLineEnd, Bool.or_eq_true, beq_iff_eq] at hend
  rcases hend with ((((((((rfl | rfl) | rfl) | rfl) | rfl) | rfl) | rfl) | rfl) | rfl) | rfl <;>
    exact absurd hblank (by decide)

theorem standsIn_lines (h : Solid word) {s : String} :
    StandsIn word (Text.lines s) ↔ word <:+: s.toList :=
  Text.infix_lines_iff h.ne_nil h.isLineEnd_eq_false

theorem infix_trim (h : Solid word) {s : String} :
    word <:+: (Text.trim s).toList ↔ word <:+: s.toList :=
  Text.infix_trim_iff h.ne_nil h.blank_notMem

/-- Behind a label that it does not stand in, a word stands in what is labelled. -/
theorem infix_labelled (h : Solid word) {label s : String} (hlabel : ¬word <:+: label.toList) :
    word <:+: (label ++ " " ++ s).toList ↔ word <:+: s.toList := by
  have htext : (label ++ " " ++ s).toList = label.toList ++ ' ' :: s.toList := by simp
  rw [htext, infix_append_cons_iff h.space_notMem, or_iff_right hlabel]

end Solid

end StandsIn

/-! ### Examples -/

/-- The text of a value that is shown, and nothing of none. -/
def Shows (v : Option Value) (s : Option String) : Prop :=
  v.map (Json.write .example) = s.map Except.ok

theorem Shows.noControls {v : Option Value} {s : Option String} (h : Shows v s) :
    ∀ t ∈ s, NoControls t.toList := by
  rintro t rfl
  rw [Shows, Option.map_some, Option.map_eq_some_iff] at h
  obtain ⟨x, -, hx⟩ := h
  exact Json.noControls_example hx

/-- Whether a word stands in the text of a value. -/
def WrittenWith (word : List Char) (v : Option Value) : Prop :=
  ∃ x ∈ v, ∃ t, Json.write .example x = .ok t ∧ word <:+: t.toList

theorem Shows.writtenWith_iff {word : List Char} {v : Option Value} {s : Option String}
    (h : Shows v s) : WrittenWith word v ↔ ∃ t ∈ s, word <:+: t.toList := by
  cases v with
  | none =>
    rw [Shows, Option.map_none, eq_comm, Option.map_eq_none_iff] at h
    simp [WrittenWith, h]
  | some x =>
    rw [Shows, Option.map_some, eq_comm, Option.map_eq_some_iff] at h
    obtain ⟨t, rfl, ht⟩ := h
    simp [WrittenWith, ← ht]

/-! ### Declarations -/

namespace Target

/-- The example that is shown of a declaration. -/
def shownSample (sample : Value) : Option Value :=
  if sample.isNull then none else some sample

/-- The lines of an example behind other lines. -/
def sampleLines (t : Target) (ls : List String) : Option String → List String
  | none => []
  | some s => (if ls.isEmpty then [] else [""]) ++ [t.sampleTag ++ " " ++ s]

section Declarations

variable {t : Target} {description : Option String} {sample : Value} {docs : List String}

theorem declarationDoc_eq_ok (h : t.declarationDoc description sample = .ok docs) :
    ∃ s, Shows (shownSample sample) s ∧
      docs = Text.lines (Text.trim (description.getD "")) ++
        t.sampleLines (Text.lines (Text.trim (description.getD ""))) s := by
  rw [declarationDoc] at h
  by_cases hs : sample.isNull = true
  · rw [if_pos hs] at h
    refine ⟨none, ?_, (Except.ok.inj h).symm.trans (List.append_nil _).symm⟩
    rw [Shows, shownSample, if_pos hs, Option.map_none, Option.map_none]
  · rw [if_neg hs] at h
    obtain ⟨s, hw, h⟩ := bind_eq_ok h
    refine ⟨some s, ?_, (Except.ok.inj h).symm.trans (List.append_assoc _ _ _)⟩
    rw [Shows, shownSample, if_neg hs, Option.map_some, hw, Option.map_some]

/-- A word stands in the documentation of a declaration exactly if it stands in the description or in the
example as it is written. -/
theorem standsIn_declarationDoc {word : List Char} (hw : Solid word)
    (ht : ¬word <:+: t.sampleTag.toList) (h : t.declarationDoc description sample = .ok docs) :
    StandsIn word docs ↔
      word <:+: (description.getD "").toList ∨ WrittenWith word (shownSample sample) := by
  obtain ⟨s, hs, hdocs⟩ := declarationDoc_eq_ok h
  have hsample : ∀ ls, StandsIn word (t.sampleLines ls s) ↔ ∃ x ∈ s, word <:+: x.toList := by
    intro ls
    cases s with
    | none => simp [sampleLines]
    | some s =>
      have hempty : ¬StandsIn word (if ls.isEmpty then [] else [""]) := by
        split <;> simp [hw.ne_nil]
      rw [sampleLines, standsIn_append, or_iff_right hempty, standsIn_cons, hw.infix_labelled ht]
      simp
  rw [hdocs, standsIn_append, hw.standsIn_lines, hw.infix_trim, hsample, hs.writtenWith_iff]

/-- The documentation of a declaration is in lines, whatever it is made of. -/
theorem unbroken_declarationDoc (h : t.declarationDoc description sample = .ok docs) :
    ∀ l ∈ docs, Unbroken l := by
  obtain ⟨s, hs, hdocs⟩ := declarationDoc_eq_ok h
  rw [hdocs]
  refine List.forall_mem_append.2 ⟨fun l hl => unbroken_of_mem_lines hl, ?_⟩
  cases s with
  | none => exact List.forall_mem_nil _
  | some s =>
    have hempty : ∀ ls : List String, ∀ l ∈ (if ls.isEmpty then [] else [""]), Unbroken l := by
      intro ls
      split <;> simp [Unbroken]
    have htag : Unbroken (t.sampleTag ++ " ") := by
      cases t <;> simp [Unbroken, sampleTag]
    have hs : Unbroken s := unbroken_of_noControls (hs.noControls s rfl)
    rw [sampleLines, List.forall_mem_append, List.forall_mem_singleton]
    exact ⟨hempty _, unbroken_append.2 ⟨htag, hs⟩⟩

end Declarations

end Target

/-! ### Fields -/

theorem nonempty_some {s : String} (h : s ≠ "") : nonempty (some s) = some s := by
  simp [nonempty, h]

namespace FieldDoc

/-- The type of a property as it is shown, with its format. -/
def shownType (d : Definition) : Option String :=
  (nonempty d.type).map fun t =>
    match nonempty d.notes.format with
    | some f => t ++ " (" ++ f ++ ")"
    | none => t

/-- The example that is shown of a property: its own, or one of its format. -/
def shownSample (d : Definition) : Option Value :=
  if d.notes.sample.isTruthy then some d.notes.sample
  else (d.notes.format.bind fun f => formatSamples.lookup f).map Value.text

section Fields

variable {name : String} {d : Definition} {fd : FieldDoc}

theorem ofDefinition_tag (h : ofDefinition tagProperty d = .ok fd) :
    fd.description = (nonempty d.notes.description).map Text.trim ∧ fd.jsonSchema = none ∧
      fd.sample = none := by
  rw [ofDefinition, if_pos (beq_self_eq_true _)] at h
  cases h
  exact ⟨rfl, rfl, rfl⟩

theorem ofDefinition_eq_ok (hname : name ≠ tagProperty) (h : ofDefinition name d = .ok fd) :
    fd.description = (nonempty d.notes.description).map Text.trim ∧ fd.jsonSchema = shownType d ∧
      Shows (shownSample d) fd.sample := by
  rw [ofDefinition, if_neg (by simpa using hname)] at h
  rw [shownSample]
  by_cases ht : d.notes.sample.isTruthy = true
  · rw [if_pos ht] at h
    obtain ⟨s, hs, h⟩ := bind_eq_ok h
    obtain ⟨t, hw, rfl⟩ := map_eq_ok hs
    cases h
    refine ⟨rfl, rfl, ?_⟩
    rw [if_pos ht, Shows, Option.map_some, hw, Option.map_some]
  · rw [if_neg ht] at h
    rw [if_neg ht]
    cases hf : d.notes.format.bind fun f => formatSamples.lookup f with
    | some x =>
      rw [hf] at h
      obtain ⟨s, hs, h⟩ := bind_eq_ok h
      obtain ⟨t, hw, rfl⟩ := map_eq_ok hs
      cases h
      refine ⟨rfl, rfl, ?_⟩
      rw [Option.map_some, Shows, Option.map_some, hw, Option.map_some]
    | none =>
      rw [hf] at h
      cases h
      refine ⟨rfl, rfl, ?_⟩
      rw [Option.map_none, Shows, Option.map_none, Option.map_none]

end Fields

end FieldDoc

/-! ### Modules -/

/-- What is asked of the parts of a layout that hold something is asked of what they hold. -/
theorem forall_isSome_iff {α β : Type} {g : α → Option β} {p : α → Prop} {q : β → Prop}
    (h : ∀ x y, g x = some y → (p x ↔ q y)) {xs : List α} :
    (∀ x ∈ xs, (g x).isSome → p x) ↔ ∀ y ∈ xs.filterMap g, q y := by
  simp only [List.mem_filterMap, forall_exists_index, and_imp]
  constructor
  · intro hall y x hx hy
    exact (h x y hy).1 (hall x hx (Option.isSome_iff_exists.2 ⟨y, hy⟩))
  · intro hall x hx hsome
    obtain ⟨y, hy⟩ := Option.isSome_iff_exists.1 hsome
    exact (h x y hy).2 (hall y x hx hy)

namespace Emitter

theorem unlines_append (ls ks : List String) : unlines (ls ++ ks) = unlines ls ++ unlines ks := by
  rw [unlines, List.map_append, String.join_append]
  rfl

theorem unlines_cons (l : String) (ls : List String) : unlines (l :: ls) = l ++ "\n" ++ unlines ls := by
  rw [unlines, List.map_cons, String.join_cons]
  rfl

/-- The module of a definition holds the documentation of its notes. -/
theorem exists_docs_of_declaration {e : Emitter} {name : String} {x : Definition} {s : Synthesis}
    {m : Module} (h : e.declaration (.text name) x s = .ok m) :
    ∃ docs, e.target.declarationDoc x.notes.description x.notes.sample = .ok docs ∧
      m.source = unlines (e.declarationLines (Identifier.ofName name)
        (e.importLines s.deps (some (.text name))) docs s) := by
  rw [declaration] at h
  obtain ⟨docs, hdocs, h⟩ := bind_eq_ok h
  cases h
  exact ⟨docs, mapError_eq_ok.1 hdocs, rfl⟩

end Emitter

end SchemaDecl
