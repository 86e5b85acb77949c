import SchemaDecl.Emission
import SchemaDecl.Proofs.Python.Pieces

/-! The lines of a declaration in Python in parts, which are read in different manners when the module
is imported: some are evaluated, annotations stay as they are, and others stand between quotes. -/

namespace SchemaDecl.Python

/-- What comes of a part of a module when the module is imported. -/
inductive Manner where
  | evaluated
  /-- It annotates something, and annotations are not evaluated. -/
  | deferred
  /-- It stands between quotes and is no more than a text. -/
  | quoted
  deriving DecidableEq, Repr

/-- A part of a line. -/
structure Part where
  manner : Manner
  pieces : List Piece

def Part.text (p : Part) : String :=
  match p.manner with
  | .quoted => literal (spell p.pieces)
  | _ => spell p.pieces

/-- A part without symbols and constructs. The symbol that is declared is no mention of it. -/
def other (s : String) : Part :=
  ⟨.evaluated, [.plain s]⟩

/-- Lines of such parts. -/
def others (ls : List String) : List (List Part) :=
  ls.map fun line => [other line]

def lineText (line : List Part) : String :=
  String.join (line.map Part.text)

/-! ### Declarations -/

def classLayout (symbol : String) (doc : List String) (fields : List Field) : List (List Part) :=
  [other ("class " ++ symbol ++ "("), ⟨.evaluated, [.typing .typedDict]⟩, other "):"] ::
    others (if doc.isEmpty then (if fields.isEmpty then ["    pass"] else [])
      else ("    " ++ Emitter.docstring doc) :: (if fields.isEmpty then [] else [""])) ++
    fields.flatMap fun f =>
      others ((fieldDoc f.doc).map fun line => "    " ++ Emitter.remark line) ++
        [[other ("    " ++ f.name ++ ": "), ⟨.deferred, annotationPieces f.type f.required⟩]]

def callLayout (symbol : String) (doc : List String) (fields : List Field) : List (List Part) :=
  others (doc.map Emitter.remark) ++
    [[other (symbol ++ " = "), ⟨.evaluated, [.typing .typedDict]⟩, other "("]] ++
    others ["    " ++ literal symbol ++ ",", "    \x7b"] ++
    (fields.map fun f =>
      [other ("        " ++ literal f.name ++ ": "),
        ⟨.quoted, annotationPieces f.type f.required⟩, other ","]) ++
    others ["    \x7d,", ")"]

def liftLayout (symbol : String) : List (List Part) :=
  others ["", ""] ++
    [[other ("def lift_" ++ symbol ++ "(original: "), ⟨.deferred, [.name symbol]⟩, other ") -> ",
      ⟨.deferred, [.name symbol]⟩, other ":"]] ++
    others [
      "    \"\"\"Lift a wire object into the domain type; the seam for derived fields.\"\"\"",
      "    return original"]

def aliasLayout (symbol : String) (doc : List String) (t : TypeExpr) (manner : Manner) :
    List (List Part) :=
  others (doc.map Emitter.remark) ++
    [[other (symbol ++ ": "), ⟨.deferred, [.typing .typeAlias]⟩, other " = ", ⟨manner, pieces t⟩]]

/-- An alias is quoted if it has dependencies. -/
def aliasManner (deps : List String) : Manner :=
  if deps.isEmpty then .evaluated else .quoted

/-- The lines of a declaration. -/
def layout (symbol : String) (doc : List String) (s : Synthesis) : List (List Part) :=
  match s.type with
  | .record fields =>
    (if fields.all fun f => isFieldName f.name then classLayout symbol doc fields
      else callLayout symbol doc fields) ++ liftLayout symbol
  | t => aliasLayout symbol doc t (aliasManner s.deps)

theorem layout_alias {symbol : String} {doc : List String} {s : Synthesis}
    (hr : s.type.isRecord = false) :
    layout symbol doc s = aliasLayout symbol doc s.type (aliasManner s.deps) := by
  obtain ⟨t, deps⟩ := s
  cases t with
  | record fields => cases hr
  | _ => rfl

/-! ### The layout and the text -/

@[simp] theorem text_other (s : String) : (other s).text = s := by
  simp [other, Part.text, Piece.text]

@[simp] theorem text_evaluated (ps : List Piece) : (Part.mk .evaluated ps).text = spell ps := rfl

@[simp] theorem text_deferred (ps : List Piece) : (Part.mk .deferred ps).text = spell ps := rfl

@[simp] theorem text_quoted (ps : List Piece) : (Part.mk .quoted ps).text = literal (spell ps) := rfl

@[simp] theorem lineText_nil : lineText [] = "" := rfl

@[simp] theorem lineText_cons (p : Part) (line : List Part) :
    lineText (p :: line) = p.text ++ lineText line := by
  simp [lineText]

@[simp] theorem map_lineText_others (ls : List String) : (others ls).map lineText = ls := by
  simp [others, Function.comp_def]

theorem map_lineText_classLayout (symbol : String) (doc : List String) (fields : List Field) :
    (classLayout symbol doc fields).map lineText = Emitter.pythonClass symbol doc fields := by
  simp [classLayout, Emitter.pythonClass, Piece.text, spell_annotationPieces, String.append_assoc,
    List.map_flatMap, Typing.name]

theorem map_lineText_callLayout (symbol : String) (doc : List String) (fields : List Field) :
    (callLayout symbol doc fields).map lineText = Emitter.pythonCall symbol doc fields := by
  simp [callLayout, Emitter.pythonCall, Piece.text, spell_annotationPieces, String.append_assoc,
    Typing.name]

theorem map_lineText_liftLayout (symbol : String) :
    (liftLayout symbol).map lineText = Emitter.pythonLift symbol := by
  simp [liftLayout, Emitter.pythonLift, Piece.text, String.append_assoc]

theorem map_lineText_aliasLayout (symbol : String) (doc : List String) (t : TypeExpr)
    (deps : List String) :
    (aliasLayout symbol doc t (aliasManner deps)).map lineText =
      doc.map Emitter.remark ++ [symbol ++ ": TypeAlias = " ++
        if deps.isEmpty then typeText t else literal (typeText t)] := by
  have htext : (Part.mk (aliasManner deps) (pieces t)).text =
      if deps.isEmpty then typeText t else literal (typeText t) := by
    unfold aliasManner
    split <;> simp [spell_pieces]
  have hjoin : ∀ s : String, ": " ++ ("TypeAlias" ++ (" = " ++ s)) = ": TypeAlias = " ++ s := by
    intro s
    rw [← String.append_assoc, ← String.append_assoc]
    rfl
  simp [aliasLayout, htext, hjoin, Piece.text, Typing.name, String.append_assoc]

/-- The lines of a declaration have the texts that are written. -/
theorem map_lineText_layout (symbol : String) (doc : List String) (s : Synthesis) :
    (layout symbol doc s).map lineText = Emitter.pythonDeclaration symbol doc s := by
  obtain ⟨t, deps⟩ := s
  cases t with
  | record fields =>
    dsimp only [layout, Emitter.pythonDeclaration]
    rw [List.map_append, map_lineText_liftLayout]
    split
    next => rw [map_lineText_classLayout]
    next => rw [map_lineText_callLayout]
  | _ => exact map_lineText_aliasLayout symbol doc _ deps

/-! ### Pieces of a layout -/

/-- The piece is in the lines, in a part that is read in this manner. -/
def Holds (lines : List (List Part)) (manner : Manner) (x : Piece) : Prop :=
  ∃ line ∈ lines, ∃ part ∈ line, part.manner = manner ∧ x ∈ part.pieces

section Holds

variable {lines lines' : List (List Part)} {manner : Manner} {x : Piece}

@[simp] theorem holds_append :
    Holds (lines ++ lines') manner x ↔ Holds lines manner x ∨ Holds lines' manner x := by
  simp only [Holds, List.mem_append, or_and_right, exists_or]

@[simp] theorem holds_cons {line : List Part} :
    Holds (line :: lines) manner x ↔
      (∃ part ∈ line, part.manner = manner ∧ x ∈ part.pieces) ∨ Holds lines manner x := by
  simp only [Holds, List.mem_cons, or_and_right, exists_or, exists_eq_left]

@[simp] theorem holds_nil : ¬Holds [] manner x := by
  simp [Holds]

theorem holds_flatMap {α : Type} {xs : List α} {f : α → List (List Part)} :
    Holds (xs.flatMap f) manner x ↔ ∃ a ∈ xs, Holds (f a) manner x := by
  induction xs with
  | nil => simp
  | cons a xs ih => rw [List.flatMap_cons, holds_append, ih, List.exists_mem_cons_iff]

theorem holds_map {α : Type} {xs : List α} {f : α → List Part} :
    Holds (xs.map f) manner x ↔ ∃ a ∈ xs, ∃ part ∈ f a, part.manner = manner ∧ x ∈ part.pieces := by
  simp [Holds]

theorem mem_pieces_other (hx : ∀ s, x ≠ .plain s) {s : String} : x ∉ (other s).pieces := by
  simpa [other] using hx s

theorem not_holds_others (hx : ∀ s, x ≠ .plain s) {ls : List String} :
    ¬Holds (others ls) manner x := by
  simp [Holds, others, mem_pieces_other hx]

/-- The annotations of fields are quoted where a class cannot declare them. -/
def fieldManner (fields : List Field) : Manner :=
  if fields.all fun f => isFieldName f.name then .deferred else .quoted

theorem holds_classLayout (hx : ∀ s, x ≠ .plain s) {symbol : String} {doc : List String}
    {fields : List Field} :
    Holds (classLayout symbol doc fields) manner x ↔
      (.evaluated = manner ∧ x = .typing .typedDict) ∨
        (∃ f ∈ fields, .deferred = manner ∧ x ∈ annotationPieces f.type f.required) := by
  simp [classLayout, holds_flatMap, not_holds_others hx, mem_pieces_other hx]

theorem holds_callLayout (hx : ∀ s, x ≠ .plain s) {symbol : String} {doc : List String}
    {fields : List Field} :
    Holds (callLayout symbol doc fields) manner x ↔
      (.evaluated = manner ∧ x = .typing .typedDict) ∨
        (∃ f ∈ fields, .quoted = manner ∧ x ∈ annotationPieces f.type f.required) := by
  simp [callLayout, holds_map, not_holds_others hx, mem_pieces_other hx]

theorem holds_liftLayout (hx : ∀ s, x ≠ .plain s) {symbol : String} :
    Holds (liftLayout symbol) manner x ↔ .deferred = manner ∧ x = .name symbol := by
  simp [liftLayout, not_holds_others hx, mem_pieces_other hx]

/-- A record mentions the construct that it is declared by, what its fields do, and itself where it is
lifted. -/
theorem holds_record (hx : ∀ s, x ≠ .plain s) {symbol : String} {doc deps : List String}
    {fields : List Field} :
    Holds (layout symbol doc ⟨.record fields, deps⟩) manner x ↔
      (.evaluated = manner ∧ x = .typing .typedDict) ∨
        (∃ f ∈ fields, fieldManner fields = manner ∧ x ∈ annotationPieces f.type f.required) ∨
        (.deferred = manner ∧ x = .name symbol) := by
  dsimp only [layout, fieldManner]
  rw [holds_append, holds_liftLayout hx]
  split
  next => rw [holds_classLayout hx, or_assoc]
  next => rw [holds_callLayout hx, or_assoc]

theorem holds_alias (hx : ∀ s, x ≠ .plain s) {symbol : String} {doc : List String} {s : Synthesis}
    (hr : s.type.isRecord = false) :
    Holds (layout symbol doc s) manner x ↔
      (.deferred = manner ∧ x = .typing .typeAlias) ∨
        (aliasManner s.deps = manner ∧ x ∈ pieces s.type) := by
  simp [layout_alias hr, aliasLayout, not_holds_others hx, mem_pieces_other hx]

end Holds

end SchemaDecl.Python
