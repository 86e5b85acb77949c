import SchemaDecl.Proofs.TypeScript.Reader

/-! What texts of types denote, put together from what their parts denote: names, literals, texts
between bars, in parentheses and before brackets, and the lines of an object type. -/

namespace SchemaDecl.TypeScript

open TypeExpr (unionOf)
open Identifier (ofName isIdentifier_ofName isIdentifier_of_ofName_eq)
open List (Forall₂)

/-- The text denotes a type with these alternatives. -/
def Denotes (text : String) (alts : List TypeExpr) : Prop :=
  ∃ ts, tokens text.toList = some ts ∧ Reads ts alts

section Denotes

variable {text : String} {alts : List TypeExpr}

theorem Denotes.readAlternatives_eq (h : Denotes text alts) : readAlternatives text = some alts := by
  obtain ⟨ts, hts, hr⟩ := h
  rw [readAlternatives, hts]
  exact hr.reading_eq

theorem Denotes.read_eq (h : Denotes text alts) : read text = some (unionOf alts) := by
  rw [read, h.readAlternatives_eq]
  rfl

theorem Denotes.ne_nil (h : Denotes text alts) : alts ≠ [] := by
  obtain ⟨ts, -, hr⟩ := h
  exact hr.ne_nil

theorem denotes_literal (s : String) : Denotes (literal s) [.literals [s]] :=
  ⟨_, tokens_quote s, reads_text s⟩

theorem denotes_primitive (p : Primitive) : Denotes (primitive p) [.primitive p] := by
  have hword : tokens (primitive p).toList = some [.word (primitive p)] := by
    cases p <;> exact tokens_identifier (isIdentifier_of_ofName_eq (by decide +kernel))
  have hof : ofWord? (primitive p) = some (.complete (.primitive p)) := by
    cases p <;> rfl
  exact ⟨_, hword, reads_word hof rfl⟩

theorem denotes_object : Denotes "object" [.record []] :=
  ⟨_, tokens_identifier (isIdentifier_of_ofName_eq (by decide +kernel)),
    reads_word (p := .complete (.record [])) rfl rfl⟩

theorem ofWord?_eq_named {w : String} (hb : w ∉ builtinTypes) (ho : w ∉ typeOperators) :
    ofWord? w = some (.named w) := by
  have hprimitive : Primitive.ofName? w = none := by
    refine List.find?_eq_none.2 fun p _ => ?_
    rintro hp
    obtain rfl := beq_iff_eq.1 hp
    exact hb (by cases p <;> decide)
  have hobject : w ≠ "object" := by
    rintro rfl
    exact hb (by decide)
  simp [ofWord?, hprimitive, hobject, hb, ho]

theorem denotes_reference {n : String} (hb : ofName n ∉ builtinTypes) (ho : ofName n ∉ typeOperators) :
    Denotes (ofName n) [.reference (ofName n) none] :=
  ⟨_, tokens_identifier (isIdentifier_ofName n), reads_word (ofWord?_eq_named hb ho) rfl⟩

theorem denotes_member {n m : String} (hb : ofName n ∉ builtinTypes) (ho : ofName n ∉ typeOperators)
    (hm : Text.isIdentifier m) : Denotes (ofName n ++ "." ++ m) [.reference (ofName n) (some m)] := by
  refine ⟨_, ?_, reads_member (ofWord?_eq_named hb ho) m⟩
  have hdot : tokens ('.' :: m.toList) = some [.mark '.', .word m] :=
    tokens_mark (by decide) (tokens_identifier hm)
  have hword := tokens_identifier (isIdentifier_ofName n)
  simpa using tokens_append hword hdot (breaks_cons (by decide) _)

theorem Denotes.group (h : Denotes text alts) : Denotes ("(" ++ text ++ ")") [unionOf alts] := by
  obtain ⟨ts, hts, hr⟩ := h
  refine ⟨_, ?_, hr.group⟩
  have hclose : tokens (text.toList ++ [')']) = some (ts ++ [.mark ')']) :=
    tokens_append hts rfl (breaks_cons (by decide) _)
  simpa using tokens_mark (by decide) hclose

theorem Denotes.array {front : List TypeExpr} {t : TypeExpr} (h : Denotes text (front ++ [t])) :
    Denotes (text ++ "[]") (front ++ [.sequence t]) := by
  obtain ⟨ts, hts, hr⟩ := h
  refine ⟨_, ?_, hr.array⟩
  have hbrackets : tokens ['[', ']'] = some [.mark '[', .mark ']'] := rfl
  simpa using tokens_append hts hbrackets (breaks_cons (by decide) _)

/-- Alternatives behind others. -/
theorem exists_tokens_of_barred {texts : List String} {parts : List (List TypeExpr)}
    (h : Forall₂ Denotes texts parts) :
    ∃ us, tokens (texts.flatMap fun r => " | ".toList ++ r.toList) = some us ∧
      ∀ ts alts, Reads ts alts → Reads (ts ++ us) (alts ++ parts.flatten) := by
  induction h with
  | nil => exact ⟨[], rfl, fun ts alts hr => by simpa using hr⟩
  | @cons text part texts parts hd _ ih =>
    obtain ⟨ts, hts, hr⟩ := hd
    obtain ⟨us, hus, hrest⟩ := ih
    refine ⟨.mark '|' :: ts ++ us, ?_, fun front alts hf => ?_⟩
    · have hspaced : feedAll .code " | ".toList = some ([.mark '|'], .code) := by decide +kernel
      have hbar : tokens (" | ".toList ++ text.toList) = some (.mark '|' :: ts) :=
        tokens_append_of_feedAll hspaced hts
      rw [List.flatMap_cons]
      refine tokens_append hbar hus ?_
      cases texts with
      | nil => rintro c ⟨⟩
      | cons r texts => exact breaks_cons (by decide) _
    · simpa using hrest _ _ (hf.bar hr)

/-- Texts between bars denote the alternatives of all of them. -/
theorem denotes_barSeparated {texts : List String} {parts : List (List TypeExpr)}
    (h : Forall₂ Denotes texts parts) (hne : texts ≠ []) :
    Denotes (barSeparated texts) parts.flatten := by
  cases h with
  | nil => exact absurd rfl hne
  | cons hd hrest =>
    obtain ⟨ts, hts, hr⟩ := hd
    obtain ⟨us, hus, hall⟩ := exists_tokens_of_barred hrest
    refine ⟨ts ++ us, ?_, hall _ _ hr⟩
    rw [barSeparated, toList_intercalate_cons]
    refine tokens_append hts hus ?_
    cases hrest with
    | nil => rintro c ⟨⟩
    | cons _ _ => exact breaks_cons (by decide) _

/-! ### Object types -/

/-- The line of a field, behind its comment. -/
def fieldLine (indent : Nat) (f : Field) : String :=
  tabs indent ++ "readonly " ++ fieldName f.name ++ (if f.required then "" else "?") ++ ": " ++
    typeText indent f.type

theorem fieldLines_eq (indent : Nat) (fs : List Field) :
    fieldLines indent fs =
      fs.flatMap fun f => commentLines (tabs indent) (fieldDoc f.doc) ++ [fieldLine indent f] := by
  induction fs with
  | nil => rfl
  | cons f fs ih =>
    obtain ⟨n, t, r, d⟩ := f
    rw [fieldLines, ih, List.flatMap_cons, List.append_assoc]
    rfl

/-- A field as its text gives it back. -/
def FieldDenotes (indent : Nat) (f f' : Field) : Prop :=
  ∃ alts, Denotes (typeText indent f.type) alts ∧ f' = .mk f.name (unionOf alts) f.required {}

theorem exists_key (name : String) :
    ∃ key, tokens (fieldName name).toList = some [key] ∧ IsKey name key := by
  unfold fieldName
  split
  next h => exact ⟨_, tokens_identifier h, .word⟩
  next => exact ⟨_, tokens_quote name, .text⟩

theorem exists_tokens_of_fieldLine {indent : Nat} {f f' : Field} (h : FieldDenotes indent f f') :
    ∃ ts, tokens ('\n' :: (fieldLine indent f).toList) = some ts ∧ ReadsFields ts [f'] := by
  obtain ⟨alts, ⟨ts, hts, hr⟩, rfl⟩ := h
  obtain ⟨key, hkey, hk⟩ := exists_key f.name
  refine ⟨_, ?_, readsFields_field hk f.required hr⟩
  have hword : feedAll .code ("readonly".toList ++ [' ']) = some ([.word "readonly"], .code) :=
    feedAll_append (feedAll_identifier (isIdentifier_of_ofName_eq (by decide +kernel)))
      (feedAll_word_of_breaks _ (breaks_cons (by decide) _) rfl)
  have hsigns : feedAll .code ((if f.required then "" else "?").toList ++ ": ".toList) =
      some (signs f.required, .code) := by
    cases f.required <;> rfl
  have hbreak : Breaks (((if f.required then "" else "?").toList ++ ": ".toList) ++
      (typeText indent f.type).toList) := by
    cases f.required <;> exact breaks_cons (by decide) _
  have htype := tokens_append_of_feedAll hsigns hts
  simpa [fieldLine] using
    tokens_append_of_feedAll (feedAll_line indent hword) (tokens_append hkey htype hbreak)

theorem exists_tokens_of_fieldLines {indent : Nat} {fs fs' : List Field}
    (hd : ∀ f ∈ fs, ∀ line ∈ fieldDoc f.doc, mentions "*/" line = false)
    (h : Forall₂ (FieldDenotes indent) fs fs') :
    ∃ ts, tokens (broken (fieldLines indent fs)) = some ts ∧ ReadsFields ts fs' := by
  rw [fieldLines_eq]
  induction h with
  | nil => exact ⟨[], rfl, readsFields_nil⟩
  | @cons f f' fs fs' hf _ ih =>
    obtain ⟨hdoc, hdocs⟩ := List.forall_mem_cons.1 hd
    obtain ⟨ts, hts, hr⟩ := exists_tokens_of_fieldLine hf
    obtain ⟨us, hus, hrest⟩ := ih hdocs
    have hcomment := tokens_commentLines indent hdoc
    have hskip : ReadsFields (if (fieldDoc f.doc).isEmpty then [] else [.line]) [] := by
      split
      · exact readsFields_nil
      · exact readsFields_line
    have hline : tokens ('\n' :: (fieldLine indent f).toList ++
        broken (fs.flatMap fun f => commentLines (tabs indent) (fieldDoc f.doc) ++
          [fieldLine indent f])) = some (ts ++ us) :=
      tokens_append hts hus (breaks_broken _)
    refine ⟨_, ?_, hskip.append (hr.append hrest)⟩
    simpa [broken] using tokens_append hcomment hline (breaks_cons (by decide) _)

theorem denotes_record {indent : Nat} {f : Field} {fs fs' : List Field}
    (hd : ∀ x ∈ f :: fs, ∀ line ∈ fieldDoc x.doc, mentions "*/" line = false)
    (h : Forall₂ (FieldDenotes (indent + 1)) (f :: fs) fs') :
    Denotes (typeText indent (.record (f :: fs))) [.record fs'] := by
  obtain ⟨ts, hts, hr⟩ := exists_tokens_of_fieldLines hd h
  refine ⟨_, ?_, hr.record⟩
  have hclose : tokens (broken [tabs indent ++ "\x7d"]) = some [.line, .mark '\x7d'] := by
    have hbrace : feedAll .code ['\x7d'] = some ([.mark '\x7d'], .code) := rfl
    refine tokens_of_feedAll ?_
    simpa [broken] using feedAll_line indent hbrace
  have hbody := tokens_append hts hclose (breaks_broken _)
  rw [typeText, List.cons_append, toList_intercalate_cons]
  simpa [broken] using tokens_mark (by decide) hbody

end Denotes

end SchemaDecl.TypeScript
