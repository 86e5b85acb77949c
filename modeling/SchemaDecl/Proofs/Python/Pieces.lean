import SchemaDecl.Proofs.Text.Lines
import SchemaDecl.Proofs.TypeExpr.Canonical
import SchemaDecl.Target.Python

/-! The text of a type in Python in pieces, which tell the symbols and the constructs of the typing
library in it from the rest. Put together they are the text. -/

namespace SchemaDecl.Python

open Identifier (ofName)

/-- A piece of code. -/
inductive Piece where
  /-- A symbol that is to be declared or imported. -/
  | name (symbol : String)
  | typing (t : Typing)
  | plain (s : String)
  deriving DecidableEq, Repr

def Piece.text : Piece → String
  | .name symbol => symbol
  | .typing t => t.name
  | .plain s => s

/-- The text that pieces are put together to. -/
def spell (ps : List Piece) : String :=
  String.join (ps.map Piece.text)

/-- A construct of the typing library with what it is applied to. -/
def applied (t : Typing) (inner : List Piece) : List Piece :=
  .typing t :: .plain "[" :: (inner ++ [.plain "]"])

/-- Of texts that are the same the first one, in pieces. -/
def firstSpelled : List (List Piece) → List (List Piece)
  | [] => []
  | p :: rest => p :: (firstSpelled rest).filter fun q => !(spell q == spell p)

/-- A union of types in pieces. -/
def unionPieces (members : List (List Piece)) : List Piece :=
  match firstSpelled members with
  | [p] => p
  | ps => applied .union ([.plain ", "].intercalate ps)

mutual

/-- A type in pieces. -/
def pieces : TypeExpr → List Piece
  | .reference n none => [.name (ofName n)]
  | .reference n (some m) => applied .literal [.name (ofName n), .plain ("." ++ m)]
  | .union ms => unionPieces (piecesAll ms)
  | .sequence t => .plain "list[" :: (pieces t ++ [.plain "]"])
  | .record _ => [.plain "dict[str, ", .typing .any, .plain "]"]
  | .literals vs => applied .literal [.plain (commaSeparated (vs.map literal))]
  | .primitive p => [.plain (primitive p)]

def piecesAll : List TypeExpr → List (List Piece)
  | [] => []
  | t :: rest => pieces t :: piecesAll rest

end

/-- The annotation of a field in pieces. -/
def annotationPieces (t : TypeExpr) (required : Bool) : List Piece :=
  if required then pieces t else applied .notRequired (pieces t)

/-! ### Pieces and texts -/

@[simp] theorem spell_nil : spell [] = "" := rfl

@[simp] theorem spell_cons (p : Piece) (ps : List Piece) : spell (p :: ps) = p.text ++ spell ps := by
  simp [spell]

@[simp] theorem spell_append (ps qs : List Piece) : spell (ps ++ qs) = spell ps ++ spell qs := by
  simp [spell]

theorem spell_applied (t : Typing) (inner : List Piece) :
    spell (applied t inner) = (t.name ++ "[") ++ spell inner ++ "]" := by
  simp [applied, Piece.text, String.append_assoc]

theorem spell_intercalate (sep : List Piece) (qs : List (List Piece)) :
    spell (sep.intercalate qs) = (spell sep).intercalate (qs.map spell) := by
  induction qs with
  | nil => rfl
  | cons q qs ih =>
    cases qs with
    | nil => simp
    | cons q' qs =>
      rw [List.intercalate_cons_cons, spell_append, spell_append, ih]
      simp

theorem map_spell_firstSpelled (ps : List (List Piece)) :
    (firstSpelled ps).map spell = firstSeen (ps.map spell) := by
  induction ps with
  | nil => rfl
  | cons p ps ih =>
    rw [firstSpelled, List.map_cons, List.map_cons, firstSeen_cons, ← ih, List.filter_map]
    rfl

theorem mem_of_mem_firstSpelled {ps : List (List Piece)} {p : List Piece} (h : p ∈ firstSpelled ps) :
    p ∈ ps := by
  induction ps with
  | nil => exact h
  | cons q ps ih =>
    rcases List.mem_cons.1 h with rfl | h
    · exact List.mem_cons_self
    · exact List.mem_cons_of_mem q (ih (List.mem_of_mem_filter h))

/-- Every text is still there. -/
theorem exists_mem_firstSpelled {ps : List (List Piece)} {p : List Piece} (h : p ∈ ps) :
    ∃ q ∈ firstSpelled ps, spell q = spell p := by
  have hmem : spell p ∈ (firstSpelled ps).map spell := by
    rw [map_spell_firstSpelled, mem_firstSeen]
    exact List.mem_map_of_mem h
  exact List.mem_map.1 hmem

theorem spell_unionPieces (ps : List (List Piece)) :
    spell (unionPieces ps) = unionText (ps.map spell) := by
  rw [unionPieces, unionText, ← map_spell_firstSpelled]
  cases firstSpelled ps with
  | nil => rfl
  | cons p rest =>
    cases rest with
    | nil => rfl
    | cons q rest =>
      dsimp only [List.map_cons]
      rw [spell_applied, spell_intercalate]
      rfl

theorem piecesAll_eq_map (ts : List TypeExpr) : piecesAll ts = ts.map pieces := by
  induction ts with
  | nil => rfl
  | cons t ts ih => rw [piecesAll, ih, List.map_cons]

theorem typeTexts_eq_map (ts : List TypeExpr) : typeTexts ts = ts.map typeText := by
  induction ts with
  | nil => rfl
  | cons t ts ih => rw [typeTexts, ih, List.map_cons]

/-- The pieces of a type are its text. -/
theorem spell_pieces (t : TypeExpr) : spell (pieces t) = typeText t := by
  induction t using TypeExpr.induct with
  | reference n m =>
    cases m with
    | none => simp [pieces, typeText, Piece.text]
    | some m =>
      rw [pieces, typeText, spell_applied]
      simp [Piece.text, Typing.name, String.append_assoc]
  | union ms ih =>
    rw [pieces, typeText, spell_unionPieces, piecesAll_eq_map, typeTexts_eq_map, List.map_map]
    exact congrArg unionText (List.map_congr_left ih)
  | sequence t ih => simp [pieces, typeText, Piece.text, ih, String.append_assoc]
  | record fs => rfl
  | literals vs =>
    rw [pieces, typeText, spell_applied]
    simp [Piece.text, Typing.name]
  | primitive p => simp [pieces, typeText, Piece.text]

theorem spell_annotationPieces (t : TypeExpr) (required : Bool) :
    spell (annotationPieces t required) = fieldAnnotation t required := by
  cases required with
  | true => exact spell_pieces t
  | false =>
    rw [annotationPieces, if_neg (by simp), spell_applied, spell_pieces]
    rfl

/-! ### What is among the pieces -/

theorem mem_applied {x : Piece} (hx : ∀ s, x ≠ .plain s) {t : Typing} {inner : List Piece} :
    x ∈ applied t inner ↔ x = .typing t ∨ x ∈ inner := by
  simp [applied, hx]

/-- What is in a union is in a member, but for the construct itself. -/
theorem mem_unionPieces {x : Piece} (hx : ∀ s, x ≠ .plain s) {ps : List (List Piece)} :
    x ∈ unionPieces ps ↔
      (x = .typing .union ∧ (firstSpelled ps).length ≠ 1) ∨ ∃ p ∈ firstSpelled ps, x ∈ p := by
  unfold unionPieces
  split
  next p hp => simp [hp]
  next hne =>
    have hlen : (firstSpelled ps).length ≠ 1 := by
      intro hlen
      obtain ⟨p, hp⟩ := List.length_eq_one_iff.1 hlen
      exact hne p hp
    have hsep : x ∉ [Piece.plain ", "] := by simpa using hx ", "
    simp [mem_applied hx, hlen, mem_intercalate hsep]

/-- A symbol in the text of a type belongs to a named type in it. -/
theorem exists_link_of_name_mem {t : TypeExpr} {symbol : String} (h : .name symbol ∈ pieces t) :
    ∃ link ∈ t.links, ofName link.1 = symbol := by
  induction t using TypeExpr.induct with
  | reference n m =>
    have hs : symbol = ofName n := by
      cases m <;> simpa [pieces, mem_applied] using h
    exact ⟨(n, m), by simp [TypeExpr.links], hs.symm⟩
  | union ms ih =>
    rw [pieces, mem_unionPieces (by simp), piecesAll_eq_map] at h
    obtain ⟨h, -⟩ | ⟨p, hp, h⟩ := h
    · cases h
    · obtain ⟨t, ht, rfl⟩ := List.mem_map.1 (mem_of_mem_firstSpelled hp)
      obtain ⟨link, hl, hs⟩ := ih t ht h
      refine ⟨link, ?_, hs⟩
      rw [TypeExpr.links, TypeExpr.memberLinks_eq_flatten]
      exact List.mem_flatten_of_mem (List.mem_map_of_mem ht) hl
  | sequence t ih => exact ih (by simpa [pieces] using h)
  | record fs => simp [pieces] at h
  | literals vs => simp [pieces, mem_applied] at h
  | primitive p => simp [pieces] at h

theorem mem_annotationPieces {x : Piece} (hx : ∀ s, x ≠ .plain s) {t : TypeExpr} {required : Bool} :
    x ∈ annotationPieces t required ↔
      x ∈ pieces t ∨ (x = .typing .notRequired ∧ required = false) := by
  cases required with
  | true => simp [annotationPieces]
  | false => simp [annotationPieces, mem_applied hx, or_comm]

end SchemaDecl.Python
