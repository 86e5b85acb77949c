import SchemaDecl.Proofs.Emission.Documentation
import SchemaDecl.Proofs.Synthesis.Documentation
import SchemaDecl.Proofs.TypeScript.Fidelity

/-! Comments in the texts of types. A text is cut into comments and code. A comment ends where it should
exactly if none of its lines has the closing mark, and the code is the text of the type without
documentation, unless alternatives are told apart by documentation alone. -/

namespace SchemaDecl

/-! ### The first elements with a value -/

section FirstWith

variable {α β γ : Type} [BEq β]

/-- Of the elements with the same value the first one. -/
def firstWith (f : α → β) : List α → List α
  | [] => []
  | x :: rest => x :: (firstWith f rest).filter fun y => !(f y == f x)

theorem map_firstWith (f : α → β) (xs : List α) : (firstWith f xs).map f = firstSeen (xs.map f) := by
  induction xs with
  | nil => rfl
  | cons x xs ih =>
    rw [firstWith, List.map_cons, List.map_cons, firstSeen_cons, ← ih, List.filter_map]
    rfl

theorem firstWith_map (f : α → β) (g : γ → α) (xs : List γ) :
    firstWith f (xs.map g) = (firstWith (fun x => f (g x)) xs).map g := by
  induction xs with
  | nil => rfl
  | cons x xs ih =>
    rw [List.map_cons, firstWith, firstWith, List.map_cons, ih, List.filter_map]
    rfl

theorem mem_of_mem_firstWith {f : α → β} {x : α} {xs : List α} (h : x ∈ firstWith f xs) : x ∈ xs := by
  induction xs with
  | nil => exact h
  | cons y ys ih =>
    rw [firstWith, List.mem_cons] at h
    rcases h with rfl | h
    · exact List.mem_cons_self
    · exact List.mem_cons_of_mem _ (ih (List.mem_of_mem_filter h))

/-- Values that are the same for the same elements have the same first ones. -/
theorem firstWith_congr [BEq γ] [LawfulBEq β] [LawfulBEq γ] {f : α → β} {g : α → γ} {xs : List α}
    (h : ∀ x ∈ xs, ∀ y ∈ xs, f x = f y ↔ g x = g y) : firstWith f xs = firstWith g xs := by
  induction xs with
  | nil => rfl
  | cons x xs ih =>
    rw [firstWith, firstWith,
      ih fun a ha b hb => h a (List.mem_cons_of_mem _ ha) b (List.mem_cons_of_mem _ hb)]
    congr 1
    refine List.filter_congr fun y hy => ?_
    have hyx := h y (List.mem_cons_of_mem _ (mem_of_mem_firstWith hy)) x List.mem_cons_self
    rw [Bool.eq_iff_iff]
    simp [hyx]

end FirstWith

namespace Emitter

/-- Lines in front of a last one. -/
theorem intercalate_newline (ls : List String) (last : String) :
    "\n".intercalate (ls ++ [last]) = unlines ls ++ last := by
  induction ls with
  | nil => exact (String.empty_append).symm
  | cons l ls ih =>
    obtain ⟨k, ks, hk⟩ : ∃ k ks, ls ++ [last] = k :: ks := by
      cases ls with
      | nil => exact ⟨_, _, rfl⟩
      | cons k ks => exact ⟨_, _, rfl⟩
    rw [List.cons_append, hk, String.intercalate_cons_cons, ← hk, ih, unlines_cons, String.append_assoc,
      String.append_assoc, String.append_assoc]

end Emitter

namespace TypeScript

open Emitter (unlines unlines_append unlines_cons)

/-! ### Comments and code -/

/-- A part of a text: a comment in lines of its own, behind some tabs, or any other text. -/
inductive Chunk where
  | comment (indent : Nat) (lines : List String)
  | code (s : String)

namespace Chunk

def text : Chunk → String
  | .comment n ls =>
    unlines ((tabs n ++ "/**") :: ls.map (fun line => tabs n ++ starred line) ++ [tabs n ++ " */"])
  | .code s => s

/-- What is left without comments. -/
def bare : Chunk → String
  | .comment _ _ => ""
  | .code s => s

def comment? : Chunk → Option (List String)
  | .comment _ ls => some ls
  | .code _ => none

/-- A comment with these lines, if there are any. -/
def ofLines (indent : Nat) (ls : List String) : List Chunk :=
  if ls.isEmpty then [] else [.comment indent ls]

/-- The texts of chunks one after another. -/
def joined (g : Chunk → String) (cs : List Chunk) : String :=
  String.join (cs.map g)

section Joined

variable (g : Chunk → String)

@[simp] theorem joined_nil : joined g [] = "" := rfl

@[simp] theorem joined_cons (c : Chunk) (cs : List Chunk) : joined g (c :: cs) = g c ++ joined g cs := by
  rw [joined, List.map_cons, String.join_cons]
  rfl

@[simp] theorem joined_append (cs ds : List Chunk) :
    joined g (cs ++ ds) = joined g cs ++ joined g ds := by
  rw [joined, List.map_append, String.join_append]
  rfl

end Joined

theorem joined_text_ofLines (indent : Nat) (ls : List String) :
    joined text (ofLines indent ls) = unlines (commentLines (tabs indent) ls) := by
  rw [ofLines, commentLines]
  split
  next => rfl
  next => simp [text]

theorem joined_bare_ofLines (indent : Nat) (ls : List String) : joined bare (ofLines indent ls) = "" := by
  rw [ofLines]
  split <;> rfl

end Chunk

/-- The line of a field up to its type. -/
def fieldHead (indent : Nat) (f : Field) : String :=
  tabs indent ++ "readonly " ++ fieldName f.name ++ (if f.required then "" else "?") ++ ": "

mutual

/-- The chunks of the text of a type. -/
def chunks (indent : Nat) : TypeExpr → List Chunk
  | .union ms => [Chunk.code " | "].intercalate
      ((firstWith Prod.fst (memberChunks indent ms)).map Prod.snd)
  | .sequence t =>
    (if isCompound t then .code "(" :: chunks indent t ++ [.code ")"] else chunks indent t) ++
      [.code "[]"]
  | .record (f :: fs) =>
    .code "\x7b\n" :: fieldChunks (indent + 1) (f :: fs) ++ [.code (tabs indent ++ "\x7d")]
  | t => [.code (typeText indent t)]

/-- The texts of types with their chunks. -/
def memberChunks (indent : Nat) : List TypeExpr → List (String × List Chunk)
  | [] => []
  | t :: rest => (typeText indent t, chunks indent t) :: memberChunks indent rest

/-- The chunks of fields, each behind its comment. -/
def fieldChunks (indent : Nat) : List Field → List Chunk
  | [] => []
  | .mk name type required doc :: rest =>
    Chunk.ofLines indent (fieldDoc doc) ++ .code (fieldHead indent (.mk name type required doc)) ::
      chunks indent type ++ .code "\n" :: fieldChunks indent rest

end

theorem memberChunks_eq (indent : Nat) (ms : List TypeExpr) :
    memberChunks indent ms = ms.map fun t => (typeText indent t, chunks indent t) := by
  induction ms with
  | nil => rfl
  | cons t ms ih => rw [memberChunks, ih, List.map_cons]

theorem chunks_union (indent : Nat) (ms : List TypeExpr) :
    chunks indent (.union ms) =
      [Chunk.code " | "].intercalate ((firstWith (typeText indent) ms).map (chunks indent)) := by
  rw [chunks, memberChunks_eq, firstWith_map, List.map_map]
  rfl

/-- The chunks of a field. -/
def fieldChunk (indent : Nat) (f : Field) : List Chunk :=
  Chunk.ofLines indent (fieldDoc f.doc) ++ .code (fieldHead indent f) :: chunks indent f.type ++
    [.code "\n"]

theorem fieldChunks_eq (indent : Nat) (fs : List Field) :
    fieldChunks indent fs = fs.flatMap (fieldChunk indent) := by
  induction fs with
  | nil => rfl
  | cons f fs ih =>
    obtain ⟨n, t, r, d⟩ := f
    rw [fieldChunks, ih, List.flatMap_cons, fieldChunk]
    simp [Field.doc, Field.type]

open Chunk (joined joined_cons joined_append)

/-! ### Texts of chunks -/

section Texts

variable (g : Chunk → String)

theorem joined_flatMap {α : Type} (f : α → List Chunk) (xs : List α) :
    joined g (xs.flatMap f) = String.join (xs.map fun x => joined g (f x)) := by
  induction xs with
  | nil => rfl
  | cons x xs ih => rw [List.flatMap_cons, joined_append, ih, List.map_cons, String.join_cons]

variable (hg : ∀ s, g (.code s) = s) (indent : Nat)

include hg

theorem joined_code (s : String) : joined g [.code s] = s := by
  rw [joined_cons, hg, Chunk.joined_nil, String.append_empty]

theorem joined_intercalate (sep : String) (parts : List (List Chunk)) :
    joined g ([Chunk.code sep].intercalate parts) = sep.intercalate (parts.map (joined g)) := by
  induction parts with
  | nil => rfl
  | cons p parts ih =>
    cases parts with
    | nil => simp
    | cons q parts =>
      rw [List.intercalate_cons_cons, List.map_cons, List.map_cons, String.intercalate_cons_cons,
        joined_append, joined_append, ih, joined_cons, hg]
      simp

theorem joined_chunks_union (ms : List TypeExpr) :
    joined g (chunks indent (.union ms)) =
      barSeparated ((firstWith (typeText indent) ms).map fun t => joined g (chunks indent t)) := by
  rw [chunks_union, joined_intercalate g hg, List.map_map]
  rfl

theorem joined_chunks_sequence (t : TypeExpr) :
    joined g (chunks indent (.sequence t)) =
      (if isCompound t then "(" ++ joined g (chunks indent t) ++ ")" else joined g (chunks indent t)) ++
        "[]" := by
  rw [chunks]
  split <;> simp [hg, String.append_assoc]

theorem joined_chunks_record (f : Field) (fs : List Field) :
    joined g (chunks indent (.record (f :: fs))) =
      "\x7b\n" ++ String.join ((f :: fs).map fun x => joined g (fieldChunk (indent + 1) x)) ++
        (tabs indent ++ "\x7d") := by
  rw [chunks, fieldChunks_eq, List.cons_append, joined_cons, joined_append, joined_flatMap, joined_cons,
    hg, hg, Chunk.joined_nil, String.append_empty, String.append_assoc]

theorem joined_fieldChunk (f : Field) :
    joined g (fieldChunk indent f) =
      joined g (Chunk.ofLines indent (fieldDoc f.doc)) ++
        (fieldHead indent f ++ joined g (chunks indent f.type) ++ "\n") := by
  simp [fieldChunk, hg, String.append_assoc]

end Texts

theorem typeText_union (indent : Nat) (ms : List TypeExpr) :
    typeText indent (.union ms) = barSeparated (firstSeen (ms.map (typeText indent))) := by
  rw [typeText, typeTexts_eq]

theorem typeText_record (indent : Nat) (f : Field) (fs : List Field) :
    typeText indent (.record (f :: fs)) =
      "\x7b\n" ++ String.join ((f :: fs).map fun x =>
        unlines (commentLines (tabs (indent + 1)) (fieldDoc x.doc)) ++
          (fieldHead (indent + 1) x ++ typeText (indent + 1) x.type ++ "\n")) ++
        (tabs indent ++ "\x7d") := by
  have hlines : ∀ xs : List Field, unlines (fieldLines (indent + 1) xs) =
      String.join (xs.map fun x => unlines (commentLines (tabs (indent + 1)) (fieldDoc x.doc)) ++
        (fieldHead (indent + 1) x ++ typeText (indent + 1) x.type ++ "\n")) := by
    intro xs
    rw [fieldLines_eq]
    induction xs with
    | nil => rfl
    | cons x xs ih =>
      have hline : unlines [fieldLine (indent + 1) x] =
          fieldHead (indent + 1) x ++ typeText (indent + 1) x.type ++ "\n" := by
        rw [unlines_cons]
        exact String.append_empty
      rw [List.flatMap_cons, unlines_append, ih, unlines_append, hline, List.map_cons, String.join_cons]
  rw [typeText, Emitter.intercalate_newline, unlines_cons, hlines]
  rfl

/-- The chunks of a type make its text. -/
theorem joined_text_chunks (t : TypeExpr) : ∀ indent, joined Chunk.text (chunks indent t) =
    typeText indent t := by
  have hcode : ∀ s, Chunk.text (.code s) = s := fun _ => rfl
  induction t using TypeExpr.induct with
  | union ms ih =>
    intro indent
    rw [joined_chunks_union _ hcode, typeText_union, ← map_firstWith]
    exact congrArg barSeparated
      (List.map_congr_left fun t ht => ih t (mem_of_mem_firstWith ht) indent)
  | sequence t ih =>
    intro indent
    rw [joined_chunks_sequence _ hcode, typeText, ih]
  | record fs ih =>
    intro indent
    cases fs with
    | nil => exact joined_code _ hcode _
    | cons f fs =>
      rw [joined_chunks_record _ hcode, typeText_record]
      refine congrArg (fun lines => "\x7b\n" ++ String.join lines ++ (tabs indent ++ "\x7d")) ?_
      refine List.map_congr_left fun x hx => ?_
      rw [joined_fieldChunk _ hcode, Chunk.joined_text_ofLines, ih x hx]
  | reference n m => exact fun indent => joined_code _ hcode _
  | literals vs => exact fun indent => joined_code _ hcode _
  | primitive p => exact fun indent => joined_code _ hcode _

/-! ### Code -/

/-- In no union documentation decides which alternatives have the same text. -/
inductive Undivided : Nat → TypeExpr → Prop
  | reference {i : Nat} (n : String) (m : Option String) : Undivided i (.reference n m)
  | union {i : Nat} {ms : List TypeExpr} (h : ∀ t ∈ ms, Undivided i t)
      (hm : ∀ t ∈ ms, ∀ u ∈ ms, typeText i t = typeText i u ↔
        typeText i t.withoutDocs = typeText i u.withoutDocs) : Undivided i (.union ms)
  | sequence {i : Nat} {t : TypeExpr} (h : Undivided i t) : Undivided i (.sequence t)
  | record {i : Nat} {fs : List Field} (h : ∀ f ∈ fs, Undivided (i + 1) f.type) :
      Undivided i (.record fs)
  | literals {i : Nat} (vs : List String) : Undivided i (.literals vs)
  | primitive {i : Nat} (p : Primitive) : Undivided i (.primitive p)

theorem isCompound_withoutDocs (t : TypeExpr) : isCompound t.withoutDocs = isCompound t := by
  cases t with
  | union ms =>
    rw [TypeExpr.withoutDocs, TypeExpr.membersWithoutDocs_eq_map, isCompound, isCompound,
      List.length_map]
  | _ => rfl

/-- Without comments the text is that of the type without documentation. -/
theorem joined_bare_chunks {indent : Nat} {t : TypeExpr} (h : Undivided indent t) :
    joined Chunk.bare (chunks indent t) = typeText indent t.withoutDocs := by
  have hcode : ∀ s, Chunk.bare (.code s) = s := fun _ => rfl
  induction h with
  | @union i ms _ hm ih =>
    -- the same alternatives are the first ones with their texts, with documentation and without
    rw [joined_chunks_union _ hcode, TypeExpr.withoutDocs, TypeExpr.membersWithoutDocs_eq_map,
      typeText_union, List.map_map, firstWith_congr hm, ← map_firstWith]
    exact congrArg barSeparated (List.map_congr_left fun t ht => ih t (mem_of_mem_firstWith ht))
  | @sequence i t _ ih =>
    rw [joined_chunks_sequence _ hcode, TypeExpr.withoutDocs, typeText, isCompound_withoutDocs, ih]
  | @record i fs _ ih =>
    cases fs with
    | nil => exact joined_code _ hcode _
    | cons f fs =>
      have hfields : TypeExpr.fieldsWithoutDocs (f :: fs) = f.withoutDocs :: fs.map Field.withoutDocs :=
        TypeExpr.fieldsWithoutDocs_eq_map _
      rw [joined_chunks_record _ hcode, TypeExpr.withoutDocs, hfields, typeText_record,
        ← List.map_cons, List.map_map]
      refine congrArg (fun lines => "\x7b\n" ++ String.join lines ++ (tabs i ++ "\x7d")) ?_
      refine List.map_congr_left fun x hx => ?_
      rw [joined_fieldChunk _ hcode, Chunk.joined_bare_ofLines, ih x hx, String.empty_append]
      obtain ⟨n, t, r, d⟩ := x
      exact (String.empty_append).symm
  | reference n m => exact joined_code _ hcode _
  | literals vs => exact joined_code _ hcode _
  | primitive p => exact joined_code _ hcode _

/-! ### Where comments end -/

/-- The mark that ends a comment. -/
def closing : List Char :=
  ['*', '/']

/-- The text behind a comment that has begun: it ends with the first closing mark. -/
def behindMark : List Char → Option (List Char)
  | '*' :: '/' :: rest => some rest
  | _ :: rest => behindMark rest
  | [] => none

/-- The text behind the comment that a text begins with, behind tabs. -/
def behindComment : List Char → Option (List Char)
  | '\t' :: rest => behindComment rest
  | '/' :: '*' :: rest => behindMark rest
  | _ => none

/-- A comment ends at the end of its last line, whatever follows. -/
def Chunk.Closes (c : Chunk) : Prop :=
  ∀ rest, behindComment (c.text.toList ++ rest) = some ('\n' :: rest)

/-- A closing mark is the first one unless there is one that ends before it does. -/
theorem behindMark_append_iff (body rest : List Char) :
    behindMark (body ++ '*' :: '/' :: rest) = some rest ↔ ¬closing <:+: body ++ ['*'] := by
  induction body with
  | nil => simp [behindMark, closing, List.infix_cons_iff]
  | cons c body ih =>
    rw [List.cons_append, List.cons_append, List.infix_cons_iff, not_or, ← ih]
    -- a mark at the front ends the comment there, which leaves more than the rest
    by_cases hmark : c = '*' ∧ body.head? = some '/'
    · obtain ⟨rfl, hbody⟩ := hmark
      obtain ⟨body, rfl⟩ := List.head?_eq_some_iff.1 hbody
      have hprefix : closing <+: '*' :: ('/' :: body ++ ['*']) := ⟨body ++ ['*'], rfl⟩
      refine iff_of_false (fun h => ?_) fun h => h.1 hprefix
      have hlength := congrArg List.length (Option.some.inj h)
      simp at hlength
      omega
    · have hskip : behindMark (c :: (body ++ '*' :: '/' :: rest)) =
          behindMark (body ++ '*' :: '/' :: rest) := by
        rw [behindMark]
        rintro tail rfl htail
        cases body with
        | nil => cases htail
        | cons d body =>
          cases htail
          exact hmark ⟨rfl, rfl⟩
      have hprefix : ¬closing <+: c :: (body ++ ['*']) := by
        rintro ⟨tail, htail⟩
        obtain ⟨rfl, htail⟩ := List.cons.inj htail
        cases body with
        | nil => cases htail
        | cons d body =>
          cases htail
          exact hmark ⟨rfl, rfl⟩
      rw [hskip, and_iff_right hprefix]

theorem solid_closing : Solid closing where
  ne_nil := by decide
  blank_notMem := List.forall_mem_cons.2 ⟨by decide, List.forall_mem_singleton.2 (by decide)⟩
  opening_notMem := by decide
  closing_notMem := by decide

theorem not_infix_replicate_tab (n : Nat) : ¬closing <:+: List.replicate n '\t' := by
  intro h
  have hstar := List.eq_of_mem_replicate (h.subset (by decide : '*' ∈ closing))
  cases hstar

theorem not_infix_star : ¬closing <:+: ['*'] := by
  decide

theorem infix_starred_iff (n : Nat) (line : String) :
    closing <:+: (tabs n ++ starred line).toList ↔ closing <:+: line.toList := by
  by_cases he : line.isEmpty = true
  · have hchars : (tabs n ++ starred line).toList = List.replicate n '\t' ++ ' ' :: ['*'] := by
      simp [tabs, starred, he]
    rw [hchars, infix_append_cons_iff solid_closing.space_notMem, String.isEmpty_iff.1 he]
    exact iff_of_false (not_or.2 ⟨not_infix_replicate_tab n, not_infix_star⟩) solid_closing.not_infix_empty
  · have hchars : (tabs n ++ starred line).toList =
        List.replicate n '\t' ++ ' ' :: (['*'] ++ ' ' :: line.toList) := by
      simp [tabs, starred, he]
    rw [hchars, infix_append_cons_iff solid_closing.space_notMem,
      or_iff_right (not_infix_replicate_tab n), infix_append_cons_iff solid_closing.space_notMem,
      or_iff_right not_infix_star]

theorem infix_unlines_iff {word : List Char} (h : '\n' ∉ word) (ls : List String) (rest : List Char) :
    word <:+: (unlines ls).toList ++ rest ↔ StandsIn word ls ∨ word <:+: rest := by
  induction ls with
  | nil => simp [unlines]
  | cons l ls ih =>
    have hchars : (unlines (l :: ls)).toList ++ rest =
        l.toList ++ '\n' :: ((unlines ls).toList ++ rest) := by
      rw [unlines_cons]
      simp
    rw [hchars, infix_append_cons_iff h, ih, standsIn_cons, or_assoc]

/-- A comment ends where it should exactly if none of its lines has the closing mark. -/
theorem closes_iff {n : Nat} {ls : List String} :
    (Chunk.comment n ls).Closes ↔ ¬StandsIn closing ls := by
  have hreturn : '\n' ∉ closing := by decide
  have hopen : ∀ cs, behindComment (List.replicate n '\t' ++ '/' :: '*' :: cs) = behindMark cs := by
    intro cs
    induction n with
    | zero => rfl
    | succ n ih => exact ih
  have hchars : ∀ rest, (Chunk.comment n ls).text.toList ++ rest =
      List.replicate n '\t' ++ '/' :: '*' :: ('*' :: '\n' ::
        ((unlines (ls.map fun line => tabs n ++ starred line)).toList ++
          (List.replicate n '\t' ++ [' '])) ++ '*' :: '/' :: '\n' :: rest) := by
    intro rest
    rw [Chunk.text, List.cons_append, unlines_cons, unlines_append, unlines_cons]
    simp [tabs, unlines]
  have hlines : StandsIn closing (ls.map fun line => tabs n ++ starred line) ↔ StandsIn closing ls := by
    simp only [StandsIn, List.mem_map, exists_exists_and_eq_and, infix_starred_iff]
  have hbody : closing <:+: '*' :: '\n' ::
      ((unlines (ls.map fun line => tabs n ++ starred line)).toList ++
        (List.replicate n '\t' ++ [' '])) ++ ['*'] ↔ StandsIn closing ls := by
    have hlast : ¬closing <:+: List.replicate n '\t' ++ ' ' :: ['*'] := by
      rw [infix_append_cons_iff solid_closing.space_notMem, not_or]
      exact ⟨not_infix_replicate_tab n, not_infix_star⟩
    have hsplit : '*' :: '\n' :: ((unlines (ls.map fun line => tabs n ++ starred line)).toList ++
        (List.replicate n '\t' ++ [' '])) ++ ['*'] =
          ['*'] ++ '\n' :: ((unlines (ls.map fun line => tabs n ++ starred line)).toList ++
            (List.replicate n '\t' ++ ' ' :: ['*'])) := by
      simp
    rw [hsplit, infix_append_cons_iff hreturn, or_iff_right not_infix_star, infix_unlines_iff hreturn, hlines,
      or_iff_left hlast]
  simp only [Chunk.Closes, hchars, hopen, behindMark_append_iff, hbody, forall_const]

end TypeScript

end SchemaDecl
