import SchemaDecl.Proofs.Emission.Imports
import SchemaDecl.Proofs.Python.Layout
import SchemaDecl.Proofs.Python.Needs
import SchemaDecl.Proofs.Synthesis.Dependencies

/-! Declarations in Python are closed: every symbol that one mentions is its own or is imported for
checkers, nothing that is evaluated mentions one, and what is imported from the typing library is what
is written. -/

namespace SchemaDecl

open Identifier (ofName)

namespace Python

/-! ### The typing library -/

theorem mem_typing_all (t : Typing) : t ∈ Typing.all := by
  cases t <;> decide

theorem nodup_names (used : List Typing) : (Typing.names used).Nodup := by
  have hall : (Typing.all.map Typing.name).Nodup := by decide
  exact hall.sublist (List.filter_sublist.map _)

section Typing

variable {hasImports : Bool} {symbol : String} {doc deps : List String} {c : Typing}

theorem mem_typeChecking_if :
    c ∈ (if hasImports then [Typing.typeChecking] else []) ↔ c = .typeChecking ∧ hasImports := by
  cases hasImports <;> simp

theorem mem_pythonTyping_record {fields : List Field}
    (h : ∀ f ∈ fields, (∀ n m, f.type ≠ .reference n (some m)) → f.type.Memberless) :
    c ∈ Emitter.pythonTyping hasImports (.record fields) ↔ (c = .typeChecking ∧ hasImports) ∨
      ∃ manner, Holds (layout symbol doc ⟨.record fields, deps⟩) manner (.typing c) := by
  have hfields : (∃ f ∈ fields, c ∈ typingUsed f.type ++ if f.required then [] else [.notRequired]) ↔
      ∃ f ∈ fields, .typing c ∈ annotationPieces f.type f.required :=
    exists_congr fun f => and_congr_right fun hf => (typing_mem_annotationPieces (h f hf)).symm
  rw [Emitter.pythonTyping, List.mem_append, mem_typeChecking_if, List.mem_cons, List.mem_flatMap,
    hfields]
  refine or_congr_right ?_
  simp [holds_record, exists_or]

theorem mem_pythonTyping_alias {s : Synthesis} (h : s.type.Memberless) (hr : s.type.isRecord = false) :
    c ∈ Emitter.pythonTyping hasImports s.type ↔ (c = .typeChecking ∧ hasImports) ∨
      ∃ manner, Holds (layout symbol doc s) manner (.typing c) := by
  have hlist : Emitter.pythonTyping hasImports s.type =
      (if hasImports then [.typeChecking] else []) ++ .typeAlias :: typingUsed s.type := by
    obtain ⟨t, deps⟩ := s
    cases t with
    | record fields => cases hr
    | _ => rfl
  rw [hlist, List.mem_append, mem_typeChecking_if, List.mem_cons, ← typing_mem_pieces h]
  refine or_congr_right ?_
  simp [holds_alias, hr, exists_or]

/-- What a declaration asks of the typing library is what its lines are written with. -/
theorem mem_pythonTyping {s : Synthesis} (h : s.type.Memberless) :
    c ∈ Emitter.pythonTyping hasImports s.type ↔ (c = .typeChecking ∧ hasImports) ∨
      ∃ manner, Holds (layout symbol doc s) manner (.typing c) := by
  cases hr : s.type.isRecord with
  | false => exact mem_pythonTyping_alias h hr
  | true =>
    obtain ⟨t, deps⟩ := s
    cases h with
    | record hfields => exact mem_pythonTyping_record hfields
    | _ => cases hr

end Typing

/-! ### Symbols -/

section Symbols

variable {symbol mentioned : String} {doc : List String} {s : Synthesis} {manner : Manner}

/-- A symbol that a declaration mentions is its own, or that of a named type; the latter are evaluated
only where there are no dependencies. -/
theorem own_or_link_of_holds (h : Holds (layout symbol doc s) manner (.name mentioned)) :
    (manner = .deferred ∧ mentioned = symbol) ∨
      ((manner = .evaluated → s.deps = []) ∧ ∃ link ∈ s.type.links, ofName link.1 = mentioned) := by
  cases hr : s.type.isRecord with
  | false =>
    rw [holds_alias (by simp) hr] at h
    obtain ⟨-, h⟩ | ⟨rfl, h⟩ := h
    · cases h
    · refine Or.inr ⟨fun hm => ?_, exists_link_of_name_mem h⟩
      unfold aliasManner at hm
      split at hm
      next hd => exact List.isEmpty_iff.1 hd
      next => cases hm
  | true =>
    obtain ⟨t, deps⟩ := s
    cases t with
    | record fields =>
      rw [holds_record (by simp)] at h
      obtain ⟨-, h⟩ | ⟨f, hf, rfl, h⟩ | ⟨rfl, h⟩ := h
      · cases h
      · rw [mem_annotationPieces (by simp)] at h
        obtain ⟨link, hl, hs⟩ := exists_link_of_name_mem (h.resolve_right fun h => nomatch h.1)
        refine Or.inr ⟨fun hm => ?_, link, ?_, hs⟩
        · unfold fieldManner at hm
          split at hm <;> cases hm
        · rw [TypeExpr.links, TypeExpr.fieldLinks_eq_flatten]
          exact List.mem_flatten_of_mem (List.mem_map_of_mem hf) hl
      · exact Or.inl ⟨rfl, Piece.name.inj h⟩
    | _ => cases hr

/-- An alias that mentions a symbol is quoted, if named types are dependencies. -/
theorem map_lineText_of_name_mem (hdeps : ∀ link ∈ s.type.links, link.1 ∈ s.deps)
    (hr : s.type.isRecord = false) (h : .name mentioned ∈ pieces s.type) :
    (layout symbol doc s).map lineText =
      doc.map Emitter.remark ++ [symbol ++ ": TypeAlias = " ++ literal (typeText s.type)] := by
  obtain ⟨link, hl, -⟩ := exists_link_of_name_mem h
  have hne : s.deps.isEmpty = false := by
    simpa using List.ne_nil_of_mem (hdeps link hl)
  rw [layout_alias hr, map_lineText_aliasLayout, hne]
  rfl

end Symbols

end Python

namespace Emitter

open Python (layout Holds)

/-- A declaration in Python is closed: a symbol that it mentions is its own or is imported for checkers,
and stands nowhere where it is evaluated; the names from the typing library are those of the constructs
that it is written with, each once. -/
theorem declaration_closed (doc : Document) (registry : Option Registry) (n : Name) (x : Definition)
    (s : Synthesis) (hs : Synthesis.ofSchema doc registry n x = .ok s) (e : Emitter)
    (he : e.target = .python) (m : Module) (hm : e.declaration n x s = .ok m) :
    ∃ (docs : List String) (typing : List Python.Typing),
      m.source = unlines (pythonOpening e.header (typing.map Python.Typing.name) ++
        Target.python.importBlock (e.importLines m.deps (some n)) ++ ["", ""] ++
        (layout m.name docs s).map Python.lineText) ∧
      (∀ manner symbol, Holds (layout m.name docs s) manner (.name symbol) →
        manner ≠ .evaluated ∧ (symbol = m.name ∨
          ∃ path, Python.importLine symbol path ∈ e.importLines m.deps (some n))) ∧
      (s.type.isRecord = false → ∀ symbol, .name symbol ∈ Python.pieces s.type →
        (layout m.name docs s).map Python.lineText =
          docs.map remark ++ [m.name ++ ": TypeAlias = " ++ literal (Python.typeText s.type)]) ∧
      (typing.map Python.Typing.name).Nodup ∧
      ∀ c, c ∈ typing ↔ (c = .typeChecking ∧ e.importLines m.deps (some n) ≠ []) ∨
        ∃ manner, Holds (layout m.name docs s) manner (.typing c) := by
  obtain ⟨name, rfl⟩ : ∃ name, n = .text name := by
    cases n with
    | text name => exact ⟨name, rfl⟩
    | other v => cases hm
  have htraces := Synthesis.traces_ofSchema hs
  have hdeclares := declares_of_declaration hm
  obtain ⟨docs, hsource⟩ := hdeclares.exists_source
  rw [hdeclares.name_eq, hdeclares.deps_eq]
  have hlinks : ∀ link ∈ s.type.links, link.1 ∈ s.deps := by
    intro link hl
    rw [htraces.deps_eq, mem_firstSeen]
    exact List.mem_map_of_mem hl
  have hused : ∀ c, c ∈ pythonTyping (!(e.importLines s.deps (some (.text name))).isEmpty) s.type ↔
      (c = .typeChecking ∧ (!(e.importLines s.deps (some (.text name))).isEmpty) = true) ∨
        ∃ manner, Holds (layout (ofName name) docs s) manner (.typing c) :=
    fun c => Python.mem_pythonTyping (Synthesis.memberless_of_ofSchema hs)
  refine ⟨docs, Python.Typing.all.filter
    (pythonTyping (!(e.importLines s.deps (some (.text name))).isEmpty) s.type).contains,
    ?_, ?_, ?_, ?_, ?_⟩
  · rw [hsource, declarationLines, he, Python.map_lineText_layout]
    rfl
  · intro manner symbol hholds
    rcases Python.own_or_link_of_holds hholds with ⟨rfl, rfl⟩ | ⟨hempty, link, hl, rfl⟩
    · exact ⟨by decide, Or.inl rfl⟩
    · refine ⟨fun hm => List.ne_nil_of_mem (hlinks link hl) (hempty hm), ?_⟩
      by_cases hself : link.1 = name
      · exact Or.inl (congrArg ofName hself)
      · refine Or.inr ⟨e.moduleFor link.1, mem_importLines.2 ⟨link.1, hlinks link hl, hself, ?_⟩⟩
        rw [importLine_eq, he]
        rfl
  · intro hr symbol hmem
    exact Python.map_lineText_of_name_mem hlinks hr hmem
  · exact Python.nodup_names _
  · intro c
    rw [List.mem_filter, List.contains_iff_mem, hused]
    simp [Python.mem_typing_all]

/-- A list of crates, of boxes or of a word. -/
def crate : Definition :=
  { Definition.blank with
    type := some "array"
    items := some { Definition.blank with
      oneOf := some [Synthesis.pointer "Crate", Synthesis.pointer "Big-Box",
        { Definition.blank with enum := some ["none"] }] } }

def crates : Document :=
  ⟨[(.text "Crate", crate), (.text "Big-Box", .blank)]⟩

def crateType : Synthesis :=
  ⟨.sequence (.union [.reference "Crate" none, .reference "Big-Box" none, .literals ["none"]]),
    ["Crate", "Big-Box"]⟩

theorem declaration_closed_crate :
    ∃ (m : Module) (docs : List String) (typing : List Python.Typing),
      Synthesis.ofSchema crates none (.text "Crate") crate = .ok crateType ∧
      pythonEmitter.declaration (.text "Crate") crate crateType = .ok m ∧
      m.source = unlines (pythonOpening "Generated." (typing.map Python.Typing.name) ++
        ["", "if TYPE_CHECKING:", "    from .Big_Box import Big_Box", "", ""] ++
        docs.map remark ++
        ["Crate: TypeAlias = \"list[Union[Crate, Big_Box, Literal[\\\"none\\\"]]]\""]) ∧
      (∃ path, Python.importLine "Big_Box" path ∈
        pythonEmitter.importLines m.deps (some (.text "Crate"))) ∧
      ∀ c, c ∈ typing ↔ c ∈ [.literal, .typeAlias, .typeChecking, .union] := by
  have hs : Synthesis.ofSchema crates none (.text "Crate") crate = .ok crateType := rfl
  obtain ⟨m, hm⟩ : ∃ m, pythonEmitter.declaration (.text "Crate") crate crateType = .ok m := ⟨_, rfl⟩
  obtain ⟨docs, typing, hsource, hnames, halias, -, htyping⟩ :=
    declaration_closed crates none (.text "Crate") crate crateType hs pythonEmitter rfl m hm
  have hbox : .name "Big_Box" ∈ Python.pieces crateType.type := by decide
  have hname : m.name = "Crate" := by
    rw [(declares_of_declaration hm).name_eq]
    decide
  have hdeps : m.deps = ["Crate", "Big-Box"] := (declares_of_declaration hm).deps_eq
  have himports : pythonEmitter.importLines ["Crate", "Big-Box"] (some (.text "Crate")) =
      ["from .Big_Box import Big_Box"] := by
    decide
  have hconstructs : ∀ c, .typing c ∈ Python.pieces crateType.type ↔ c ∈ [.literal, .union] := by
    intro c
    cases c <;> decide
  have hquoted : Holds (layout m.name docs crateType) .quoted (.name "Big_Box") :=
    (Python.holds_alias (by simp) rfl).2 (Or.inr ⟨rfl, hbox⟩)
  refine ⟨m, docs, typing, hs, hm, ?_, ?_, fun c => ?_⟩
  · have htext : literal (Python.typeText crateType.type) =
        "\"list[Union[Crate, Big_Box, Literal[\\\"none\\\"]]]\"" := by
      decide
    have hblock : Target.python.importBlock ["from .Big_Box import Big_Box"] =
        ["", "if TYPE_CHECKING:", "    from .Big_Box import Big_Box"] := rfl
    rw [hsource, halias rfl _ hbox, hname, hdeps, himports, htext, hblock]
    simp [pythonEmitter]
  · exact (hnames .quoted "Big_Box" hquoted).2.resolve_left (by rw [hname]; decide)
  · have hholds : ∀ manner, Holds (layout m.name docs crateType) manner (.typing c) ↔ _ :=
      fun manner => Python.holds_alias (by simp) rfl
    rw [htyping, hdeps, himports]
    simp only [hholds, hconstructs]
    cases c <;> simp

end Emitter

end SchemaDecl
