import SchemaDecl.Proofs.Generation.Documentation
import SchemaDecl.Proofs.TypeScript.Comments

/-! The comments of a module in TypeScript. What is documented is copied into them, so they end where they
should exactly if the closing mark stands in nothing that is shown. The code around them does not depend
on what they say, unless documentation alone tells alternatives apart. -/

namespace SchemaDecl

open TypeScript (Chunk Undivided closing solid_closing chunks fieldChunk)

/-! ### What is shown of a property -/

/-- A word stands in what is shown of a property: its description and, unless it holds the discriminant,
its type with the format and its example. -/
def Definition.ShowsWord (word : List Char) (name : String) (d : Definition) : Prop :=
  word <:+: (d.notes.description.getD "").toList ∨
    name ≠ tagProperty ∧
      ((∃ type ∈ d.type, type ≠ "" ∧
        (word <:+: type.toList ∨ ∃ format ∈ d.notes.format, word <:+: format.toList)) ∨
      WrittenWith word (FieldDoc.shownSample d))

/-- The field is documented as a property of the definition or of one in it. -/
def Definition.Documents (d : Definition) (f : Field) : Prop :=
  ∃ (object : Definition) (p : String × Definition), object.Within d ∧
    p ∈ object.properties.getD [] ∧ p.1 = f.name ∧ FieldDoc.ofDefinition p.1 p.2 = .ok f.doc

theorem Definition.Documents.mono {c d : Definition} {f : Field} (h : c.Documents f)
    (hc : ∀ object : Definition, object.Within c → object.Within d) : d.Documents f := by
  obtain ⟨object, p, hobject, hp⟩ := h
  exact ⟨object, p, hc object hobject, hp⟩

theorem exists_nonempty_iff {word : List Char} (hw : Solid word) {s : Option String} :
    (∃ t ∈ nonempty s, word <:+: t.toList) ↔ ∃ t ∈ s, word <:+: t.toList := by
  cases s with
  | none => rfl
  | some t =>
    by_cases ht : t = ""
    · simp [nonempty, ht, hw.ne_nil]
    · rw [nonempty_some ht]

/-- A word without blanks and brackets stands in a type or in the format behind it. -/
theorem infix_shownType_iff {word : List Char} (hw : Solid word) {d : Definition} :
    (∃ t ∈ FieldDoc.shownType d, word <:+: t.toList) ↔ ∃ type ∈ d.type, type ≠ "" ∧
      (word <:+: type.toList ∨ ∃ format ∈ d.notes.format, word <:+: format.toList) := by
  have hnil : ¬word <:+: [] := by simpa using hw.ne_nil
  rw [FieldDoc.shownType, ← exists_nonempty_iff hw (s := d.notes.format)]
  cases d.type with
  | none => simp [nonempty]
  | some type =>
    by_cases htype : type = ""
    · simp [nonempty, htype]
    · have hsome : nonempty (some type) = some type := nonempty_some htype
      cases nonempty d.notes.format with
      | none => simp [hsome, htype]
      | some format =>
        have hchars : (type ++ " (" ++ format ++ ")").toList =
            type.toList ++ ' ' :: ([] ++ '(' :: (format.toList ++ ')' :: [])) := by simp
        have hparts : word <:+: (type ++ " (" ++ format ++ ")").toList ↔
            word <:+: type.toList ∨ word <:+: format.toList := by
          rw [hchars, infix_append_cons_iff hw.space_notMem, infix_append_cons_iff hw.opening_notMem,
            or_iff_right hnil, infix_append_cons_iff hw.closing_notMem, or_iff_left hnil]
        rw [hsome]
        simpa [htype] using hparts

namespace TypeScript

/-- The lines in which a field is described. -/
def descriptionLines (d : FieldDoc) : List String :=
  if d.description.getD "" == "" then []
  else linesOf d.description ++ (if d.deprecated then ["@deprecated " ++ deprecationNote] else [])

/-- The lines with the type of a field and an example. -/
def detailLines (d : FieldDoc) : List String :=
  labelled "JSON-schema: " d.jsonSchema ++ d.sample.toList.map ("@example " ++ ·)

theorem fieldDoc_eq (d : FieldDoc) : fieldDoc d = descriptionLines d ++
    (if (descriptionLines d).isEmpty || (detailLines d).isEmpty then [] else [""]) ++ detailLines d := by
  obtain ⟨description, deprecated, jsonSchema, sample⟩ := d
  cases sample <;> rfl

/-- The words that are put in front of parts of the documentation. -/
def labels : List String :=
  ["@deprecated " ++ deprecationNote, "JSON-schema:", "@example"]

section FieldDoc

variable {word : List Char} (hw : Solid word) (hlabels : ¬StandsIn word labels)
  {name : String} {d : Definition} {fd : FieldDoc} (h : FieldDoc.ofDefinition name d = .ok fd)

include hw hlabels

theorem standsIn_descriptionLines {s : Option String} (hs : fd.description = (nonempty s).map Text.trim) :
    StandsIn word (descriptionLines fd) ↔ word <:+: (s.getD "").toList := by
  have hnote : ¬StandsIn word (if fd.deprecated then ["@deprecated " ++ deprecationNote] else []) := by
    rw [labels, standsIn_cons, not_or] at hlabels
    split
    next => simpa using hlabels.1
    next => exact standsIn_nil
  have hlines : StandsIn word (descriptionLines fd) ↔ StandsIn word (linesOf fd.description) := by
    rw [descriptionLines]
    split
    next hempty =>
      rw [linesOf, beq_iff_eq.1 hempty]
      rfl
    next => rw [standsIn_append, or_iff_left hnote]
  rw [hlines, linesOf, hw.standsIn_lines, hs]
  cases s with
  | none => rfl
  | some t =>
    by_cases ht : t = ""
    · subst ht
      rfl
    · rw [nonempty_some ht]
      exact hw.infix_trim

theorem standsIn_detailLines : StandsIn word (detailLines fd) ↔
    (∃ t ∈ fd.jsonSchema, word <:+: t.toList) ∨ ∃ t ∈ fd.sample, word <:+: t.toList := by
  obtain ⟨-, hschema, htag⟩ : _ ∧ ¬word <:+: "JSON-schema:".toList ∧ ¬word <:+: "@example".toList := by
    simpa [labels] using hlabels
  have htype : ∀ s, StandsIn word (labelled "JSON-schema: " s) ↔ ∃ t ∈ s, word <:+: t.toList := by
    intro s
    cases s with
    | none => simp [labelled]
    | some t =>
      rw [labelled]
      split
      next ht => simp [beq_iff_eq.1 ht, hw.ne_nil]
      next => simpa using hw.infix_labelled hschema
  have hsample : ∀ s : Option String, StandsIn word (s.toList.map ("@example " ++ ·)) ↔
      ∃ t ∈ s, word <:+: t.toList := by
    intro s
    cases s with
    | none => simp
    | some t => simpa using hw.infix_labelled htag
  rw [detailLines, standsIn_append, htype, hsample]

include h

/-- A word stands in the documentation of a field exactly if it stands in what is shown of the property. -/
theorem standsIn_fieldDoc : StandsIn word (fieldDoc fd) ↔ d.ShowsWord word name := by
  have hseparator : ∀ b : Bool, ¬StandsIn word (if b then [] else [""]) := by
    intro b
    cases b <;> simp [hw.ne_nil]
  rw [fieldDoc_eq, standsIn_append, standsIn_append, or_iff_left (hseparator _),
    standsIn_detailLines hw hlabels, Definition.ShowsWord]
  by_cases hname : name = tagProperty
  · subst hname
    obtain ⟨hdescription, htype, hsample⟩ := FieldDoc.ofDefinition_tag h
    rw [standsIn_descriptionLines hw hlabels hdescription, htype, hsample]
    simp
  · obtain ⟨hdescription, htype, hsample⟩ := FieldDoc.ofDefinition_eq_ok hname h
    rw [standsIn_descriptionLines hw hlabels hdescription, htype, ← hsample.writtenWith_iff,
      infix_shownType_iff hw, and_iff_right hname]

end FieldDoc

/-! ### Where comments come from -/

/-- The field has its line in the text of the type, at whatever depth. -/
inductive Shown (f : Field) : Nat → TypeExpr → Prop
  | union {i : Nat} {t : TypeExpr} {ms : List TypeExpr} (ht : t ∈ firstWith (typeText i) ms)
      (h : Shown f i t) : Shown f i (.union ms)
  | sequence {i : Nat} {t : TypeExpr} (h : Shown f i t) : Shown f i (.sequence t)
  | field {i : Nat} {fs : List Field} (hf : f ∈ fs) : Shown f i (.record fs)
  | inner {i : Nat} {g : Field} {fs : List Field} (hg : g ∈ fs) (h : Shown f (i + 1) g.type) :
      Shown f i (.record fs)

/-- The comments among chunks. -/
def comments (cs : List Chunk) : List (List String) :=
  cs.filterMap Chunk.comment?

section Comments

@[simp] theorem comments_nil : comments [] = [] := rfl

@[simp] theorem comments_code (s : String) (cs : List Chunk) : comments (.code s :: cs) = comments cs := rfl

@[simp] theorem comments_append (cs ds : List Chunk) :
    comments (cs ++ ds) = comments cs ++ comments ds :=
  List.filterMap_append

theorem mem_comments_ofLines (indent : Nat) {ls ks : List String} :
    ls ∈ comments (Chunk.ofLines indent ks) ↔ ls = ks ∧ ls ≠ [] := by
  cases ks with
  | nil => simp [Chunk.ofLines]
  | cons k ks =>
    have hone : comments (Chunk.ofLines indent (k :: ks)) = [k :: ks] := rfl
    rw [hone, List.mem_singleton]
    exact (and_iff_left_of_imp fun h => h ▸ List.cons_ne_nil k ks).symm

theorem comments_intercalate (sep : String) (parts : List (List Chunk)) :
    comments ([Chunk.code sep].intercalate parts) = parts.flatMap comments := by
  induction parts with
  | nil => rfl
  | cons p parts ih =>
    cases parts with
    | nil => simp
    | cons q parts =>
      rw [List.intercalate_cons_cons, comments_append, comments_append, ih, comments_code,
        comments_nil, List.append_nil]
      exact List.flatMap_cons.symm

theorem comments_sequence (indent : Nat) (t : TypeExpr) :
    comments (chunks indent (.sequence t)) = comments (chunks indent t) := by
  rw [chunks]
  split <;> simp

theorem comments_record (indent : Nat) (fs : List Field) :
    comments (chunks indent (.record fs)) = fs.flatMap fun f =>
      comments (Chunk.ofLines (indent + 1) (fieldDoc f.doc)) ++ comments (chunks (indent + 1) f.type) := by
  cases fs with
  | nil => simp [chunks]
  | cons f fs =>
    have hflat : ∀ fs : List Field, comments (fs.flatMap (fieldChunk (indent + 1))) =
        fs.flatMap fun f => comments (fieldChunk (indent + 1) f) := fun fs =>
      List.filterMap_flatMap
    rw [chunks, fieldChunks_eq, List.cons_append, comments_code, comments_append, hflat]
    simp [fieldChunk]

/-- The comments in the text of a type are the documentation of the fields in it. -/
theorem mem_comments_chunks (t : TypeExpr) : ∀ {indent ls}, ls ∈ comments (chunks indent t) ↔
    ∃ f, Shown f indent t ∧ ls = fieldDoc f.doc ∧ ls ≠ [] := by
  have hleaf : ∀ {indent ls t}, comments (chunks indent t) = [] → (∀ f, ¬Shown f indent t) →
      (ls ∈ comments (chunks indent t) ↔
        ∃ f, Shown f indent t ∧ ls = fieldDoc f.doc ∧ ls ≠ []) := by
    intro indent ls t hnone hshown
    rw [hnone]
    exact iff_of_false List.not_mem_nil fun ⟨f, hf, _⟩ => hshown f hf
  induction t using TypeExpr.induct with
  | union ms ih =>
    intro indent ls
    rw [chunks_union, comments_intercalate, List.mem_flatMap]
    constructor
    · rintro ⟨cs, hcs, hls⟩
      obtain ⟨t, ht, rfl⟩ := List.mem_map.1 hcs
      obtain ⟨f, hf, hdoc⟩ := (ih t (mem_of_mem_firstWith ht)).1 hls
      exact ⟨f, .union ht hf, hdoc⟩
    · rintro ⟨f, hf, hdoc⟩
      cases hf with
      | union ht hf =>
        exact ⟨_, List.mem_map_of_mem ht, (ih _ (mem_of_mem_firstWith ht)).2 ⟨f, hf, hdoc⟩⟩
  | sequence t ih =>
    intro indent ls
    rw [comments_sequence, ih]
    refine exists_congr fun f => and_congr_left' ⟨.sequence, fun hf => ?_⟩
    cases hf with
    | sequence hf => exact hf
  | record fs ih =>
    intro indent ls
    rw [comments_record, List.mem_flatMap]
    constructor
    · rintro ⟨g, hg, hls⟩
      rcases List.mem_append.1 hls with hls | hls
      · exact ⟨g, .field hg, (mem_comments_ofLines _).1 hls⟩
      · obtain ⟨f, hf, hdoc⟩ := (ih g hg).1 hls
        exact ⟨f, .inner hg hf, hdoc⟩
    · rintro ⟨f, hf, hdoc⟩
      cases hf with
      | field hf => exact ⟨f, hf, List.mem_append_left _ ((mem_comments_ofLines _).2 hdoc)⟩
      | inner hg hf => exact ⟨_, hg, List.mem_append_right _ ((ih _ hg).2 ⟨f, hf, hdoc⟩)⟩
  | reference n m => exact hleaf rfl nofun
  | literals vs => exact hleaf rfl nofun
  | primitive p => exact hleaf rfl nofun

end Comments

end TypeScript

namespace Synthesis

open TypeScript (Shown)

variable {doc : Document} {registry : Option Registry}

theorem documents_of_shown_record {name : Name} {d : Definition} {fs : List (Field × List String)}
    (h : List.Forall₂ (FieldRule doc registry name d.required fun _ d s =>
      ∀ i f, Shown f i s.type → d.Documents f) (d.properties.getD []) fs) :
    ∀ i f, Shown f i (ofFields fs).type → d.Documents f := by
  intro i f hf
  cases hf with
  | field hf =>
    obtain ⟨x, hx, rfl⟩ := List.mem_map.1 hf
    obtain ⟨p, hp, hrule⟩ := exists_of_forall₂ h hx
    cases hrule with
    | member hm hd => exact ⟨d, _, .self d, hp, rfl, mapError_eq_ok.1 hd⟩
    | plain _ _ _ hd => exact ⟨d, _, .self d, hp, rfl, mapError_eq_ok.1 hd⟩
  | inner hg hf =>
    obtain ⟨x, hx, rfl⟩ := List.mem_map.1 hg
    obtain ⟨p, hp, hrule⟩ := exists_of_forall₂ h hx
    cases hrule with
    | member hm hd => cases hf
    | plain _ _ hs _ => exact (hs _ f hf).mono fun object ho => .property hp ho

theorem closed_documents :
    Closed doc registry fun _ d s => ∀ i f, Shown f i s.type → d.Documents f where
  reference _ _ := by rintro i f ⟨⟩
  literals _ _ _ := by rintro i f ⟨⟩
  union _ _ ho _ h := by
    intro i f hf
    cases hf with
    | union ht hf =>
      obtain ⟨s, hs, rfl⟩ := List.mem_map.1 (mem_of_mem_firstWith ht)
      obtain ⟨b, hb, hbs⟩ := exists_of_forall₂ h hs
      exact (hbs.2 i f hf).mono fun object hobject => .branch ho hb hobject
  sequence _ _ _ _ hi _ h := by
    intro i f hf
    cases hf with
    | sequence hf => exact (h i f hf).mono fun object ho => .items hi ho
  record _ _ _ _ _ h := documents_of_shown_record h
  primitive _ _ _ _ _ _ := by rintro i f ⟨⟩

/-- Every field in the text of a type is documented in the definition. -/
theorem documents_of_shown {n : Name} {x : Definition} {s : Synthesis}
    (hs : ofSchema doc registry n x = .ok s) : ∀ i f, Shown f i s.type → x.Documents f := by
  rcases closed_documents.of_ofSchema hs with ⟨-, fs, rfl, hfs⟩ | ⟨-, hs⟩
  · exact documents_of_shown_record hfs
  · exact hs

end Synthesis

namespace Emitter

open TypeScript (Shown comments joined_text_chunks joined_bare_chunks closes_iff)
open TypeScript.Chunk (joined)

/-- The chunks of a module in TypeScript. -/
def moduleChunks (e : Emitter) (symbol : String) (imports docs : List String) (s : Synthesis) :
    List Chunk :=
  .code (unlines (comment e.header ++ imports)) :: Chunk.ofLines 0 docs ++
    .code ("export type " ++ symbol ++ " = ") :: chunks 0 s.type ++
    [.code ("\n" ++ unlines (if s.type.isRecord then typescriptLift symbol else []))]

section Modules

variable {e : Emitter} (he : e.target = .typescript) (symbol : String) (imports docs : List String)
  (s : Synthesis)

include he

theorem joined_text_moduleChunks : joined Chunk.text (e.moduleChunks symbol imports docs s) =
    unlines (e.declarationLines symbol imports docs s) := by
  have hdocs : joined Chunk.text (Chunk.ofLines 0 docs) =
      unlines (if docs.isEmpty then [] else "/**" :: docs.map TypeScript.starred ++ [" */"]) := by
    have hpad : ∀ s : String, TypeScript.tabs 0 ++ s = s := fun s => String.empty_append
    rw [Chunk.joined_text_ofLines, TypeScript.commentLines]
    simp only [hpad]
  rw [declarationLines, he]
  dsimp only
  rw [typescriptDeclaration, unlines_append, unlines_append, unlines_append, unlines_append, ← hdocs,
    unlines_cons, moduleChunks]
  simp [joined_text_chunks, Chunk.text, String.append_assoc, unlines]

theorem joined_bare_moduleChunks (h : Undivided 0 s.type) :
    joined Chunk.bare (e.moduleChunks symbol imports docs s) =
      unlines (e.declarationLines symbol imports [] s.bare) := by
  rw [declarationLines, he]
  dsimp only
  rw [typescriptDeclaration, unlines_append, unlines_append, unlines_append, unlines_append,
    unlines_cons, moduleChunks, Synthesis.bare, TypeExpr.isRecord_withoutDocs]
  simp [joined_bare_chunks h, Chunk.joined_bare_ofLines, Chunk.bare, String.append_assoc, unlines]

end Modules

/-- The comments of a module are the documentation of the declaration and that of the fields in it. -/
theorem mem_comments_moduleChunks {e : Emitter} {symbol : String} {imports docs ls : List String}
    {s : Synthesis} : ls ∈ comments (e.moduleChunks symbol imports docs s) ↔
      (ls = docs ∨ ∃ f, Shown f 0 s.type ∧ ls = TypeScript.fieldDoc f.doc) ∧ ls ≠ [] := by
  have hfields : (∃ f, Shown f 0 s.type ∧ ls = TypeScript.fieldDoc f.doc ∧ ls ≠ []) ↔
      (∃ f, Shown f 0 s.type ∧ ls = TypeScript.fieldDoc f.doc) ∧ ls ≠ [] := by
    simp only [← and_assoc, exists_and_right]
  rw [moduleChunks, or_and_right, ← hfields, ← TypeScript.mem_comments_chunks,
    ← TypeScript.mem_comments_ofLines 0]
  simp

/-- All comments end where they should exactly if none has the closing mark in its lines. -/
theorem forall_closes_iff {cs : List Chunk} : (∀ c ∈ cs, c.comment?.isSome → c.Closes) ↔
    ∀ ls ∈ comments cs, ¬StandsIn closing ls :=
  forall_isSome_iff <| by
    rintro (⟨n, ks⟩ | t) ls ⟨⟩
    exact closes_iff

theorem forall_closes_moduleChunks_iff {e : Emitter} {symbol : String} {imports docs : List String}
    {s : Synthesis} :
    (∀ c ∈ e.moduleChunks symbol imports docs s, c.comment?.isSome → c.Closes) ↔
      ¬StandsIn closing docs ∧
        ∀ f, Shown f 0 s.type → ¬StandsIn closing (TypeScript.fieldDoc f.doc) := by
  have hne : ∀ {ls}, StandsIn closing ls → ls ≠ [] := by
    rintro _ h rfl
    exact standsIn_nil h
  simp only [forall_closes_iff, mem_comments_moduleChunks]
  constructor
  · intro h
    exact ⟨fun hdocs => h docs ⟨.inl rfl, hne hdocs⟩ hdocs,
      fun f hf hdoc => h _ ⟨.inr ⟨f, hf, rfl⟩, hne hdoc⟩ hdoc⟩
  · rintro ⟨hdocs, hfields⟩ ls ⟨rfl | ⟨f, hf, rfl⟩, -⟩
    · exact hdocs
    · exact hfields f hf

/-- Comments in TypeScript hold what is documented as it is, so that all of them end where they should
exactly if the closing mark stands in none of it. Around them is the module of the type without
documentation, which is the same for documents that differ in notes alone, as long as alternatives are
not told apart by documentation. -/
theorem comments_closed_iff (doc : Document) (registry : Option Registry) (n : Name) (x : Definition)
    (s : Synthesis) (e : Emitter) (m : Module) (hs : Synthesis.ofSchema doc registry n x = .ok s)
    (he : e.target = .typescript) (hm : e.declaration n x s = .ok m) :
    (∀ (name : String) (d : Definition) (fd : FieldDoc), FieldDoc.ofDefinition name d = .ok fd →
      (StandsIn closing (TypeScript.fieldDoc fd) ↔ d.ShowsWord closing name)) ∧
    (∀ (description : Option String) (sample : Value) (docs : List String),
      Target.typescript.declarationDoc description sample = .ok docs →
      (StandsIn closing docs ↔ closing <:+: (description.getD "").toList ∨
        WrittenWith closing (Target.shownSample sample))) ∧
    ∃ (docs : List String) (cs : List Chunk),
      cs = e.moduleChunks m.name (e.importLines s.deps (some n)) docs s ∧
      e.target.declarationDoc x.notes.description x.notes.sample = .ok docs ∧
      m.source = joined Chunk.text cs ∧
      (∀ ls, ls ∈ comments cs ↔
        (ls = docs ∨ ∃ f, Shown f 0 s.type ∧ ls = TypeScript.fieldDoc f.doc) ∧ ls ≠ []) ∧
      (∀ f, Shown f 0 s.type → x.Documents f) ∧
      ((∀ c ∈ cs, c.comment?.isSome → c.Closes) ↔ ¬StandsIn closing docs ∧
        ∀ f, Shown f 0 s.type → ¬StandsIn closing (TypeScript.fieldDoc f.doc)) ∧
      (Undivided 0 s.type → joined Chunk.bare cs =
        unlines (e.declarationLines m.name (e.importLines s.deps (some n)) [] s.bare)) ∧
      ∀ (doc' : Document) (x' : Definition) (s' : Synthesis) (docs' : List String),
        doc.Plain → doc'.Plain → doc.withoutNotes = doc'.withoutNotes → (n, x) ∈ doc.entries →
        (n, x') ∈ doc'.entries → Synthesis.ofSchema doc' registry n x' = .ok s' →
        Undivided 0 s.type → Undivided 0 s'.type → joined Chunk.bare cs =
          joined Chunk.bare (e.moduleChunks m.name (e.importLines s'.deps (some n)) docs' s') := by
  have hlabels : ¬StandsIn closing TypeScript.labels := by decide +kernel
  have htag : ¬closing <:+: Target.typescript.sampleTag.toList := by decide +kernel
  obtain ⟨name, rfl⟩ : ∃ name, n = .text name := by
    cases n with
    | text name => exact ⟨name, rfl⟩
    | other v => cases hm
  obtain ⟨docs, hdocs, hsource⟩ := exists_docs_of_declaration hm
  have hname : m.name = Identifier.ofName name := (declares_of_declaration hm).name_eq
  refine ⟨fun name d fd h => TypeScript.standsIn_fieldDoc solid_closing hlabels h,
    fun description sample docs h => Target.standsIn_declarationDoc solid_closing htag h,
    docs, _, rfl, hdocs, ?_, fun ls => mem_comments_moduleChunks, Synthesis.documents_of_shown hs 0,
    forall_closes_moduleChunks_iff, joined_bare_moduleChunks he _ _ _ s, ?_⟩
  · rw [joined_text_moduleChunks he, hname, hsource]
  · intro doc' x' s' docs' hd hd' h hx hx' hs' hu hu'
    have hbare := Synthesis.map_bare_ofSchema hd hd' h registry hx hx'
    rw [hs, hs'] at hbare
    have hsame : s.bare = s'.bare := Except.ok.inj hbare
    have hdeps : s.deps = s'.deps := (Synthesis.mk.inj hsame).2
    rw [joined_bare_moduleChunks he _ _ _ _ hu, joined_bare_moduleChunks he _ _ _ _ hu', hsame, hdeps]

/-- An emitter for TypeScript that knows of no further modules. -/
def typescriptEmitter : Emitter :=
  { target := .typescript, known := [], header := "Generated." }

/-- The type of a car with what is shown of its age. -/
def carType (age : FieldDoc) : Synthesis :=
  ⟨.record [.mk tagProperty (.reference Registry.symbol (some "Car")) true {},
    .mk "age" (.primitive .string) false age], [Registry.symbol]⟩

theorem comments_closed_iff_car :
    ∃ (x x' : Definition) (s s' : Synthesis) (m : Module) (cs : List Chunk),
      (.text "Car", x) ∈ Generation.annotated.entries ∧ (.text "Car", x') ∈ Generation.terse.entries ∧
      Synthesis.ofSchema Generation.annotated none (.text "Car") x = .ok s ∧
      Synthesis.ofSchema Generation.terse none (.text "Car") x' = .ok s' ∧
      typescriptEmitter.declaration (.text "Car") x s = .ok m ∧ m.source = joined Chunk.text cs ∧
      comments cs = [["A"], ["JSON-schema: string (date)", "@example \"d\""]] ∧
      (∀ c ∈ cs, c.comment?.isSome → c.Closes) ∧
      joined Chunk.bare cs = joined Chunk.bare (typescriptEmitter.moduleChunks m.name
        (typescriptEmitter.importLines s'.deps (some (.text "Car"))) [] s') := by
  have hundivided : ∀ age, Undivided 0 (carType age).type := by
    intro age
    refine .record fun f hf => ?_
    simp only [List.mem_cons, List.not_mem_nil, or_false] at hf
    rcases hf with rfl | rfl
    · exact .reference _ _
    · exact .primitive _
  obtain ⟨x, m, hx, hs, hm, hdocs⟩ : ∃ x m, (.text "Car", x) ∈ Generation.annotated.entries ∧
      Synthesis.ofSchema Generation.annotated none (.text "Car") x =
        .ok (carType { jsonSchema := some "string (date)", sample := some "\"d\"" }) ∧
      typescriptEmitter.declaration (.text "Car") x
        (carType { jsonSchema := some "string (date)", sample := some "\"d\"" }) = .ok m ∧
      Target.typescript.declarationDoc x.notes.description x.notes.sample = .ok ["A"] :=
    ⟨_, _, List.mem_cons_self, rfl, rfl, rfl⟩
  obtain ⟨x', hx', hs'⟩ : ∃ x', (.text "Car", x') ∈ Generation.terse.entries ∧
      Synthesis.ofSchema Generation.terse none (.text "Car") x' =
        .ok (carType { jsonSchema := some "string" }) :=
    ⟨_, List.mem_cons_self, rfl⟩
  obtain ⟨-, -, docs, cs, hcs, hdocs', hsource, -, -, hcloses, -, hsame⟩ :=
    comments_closed_iff _ _ _ _ _ _ m hs rfl hm
  obtain rfl : ["A"] = docs := Except.ok.inj (hdocs.symm.trans hdocs')
  have hcomments : comments cs = [["A"], ["JSON-schema: string (date)", "@example \"d\""]] := by
    rw [hcs]
    rfl
  refine ⟨x, x', _, _, m, cs, hx, hx', hs, hs', hm, hsource, hcomments, hcloses.2 ?_, ?_⟩
  · refine ⟨by decide +kernel, fun f hf => ?_⟩
    cases hf with
    | field hf =>
      simp only [List.mem_cons, List.not_mem_nil, or_false] at hf
      rcases hf with rfl | rfl <;> decide +kernel
    | inner hg hf =>
      simp only [List.mem_cons, List.not_mem_nil, or_false] at hg
      rcases hg with rfl | rfl <;> cases hf
  · exact hsame _ x' _ [] Generation.fromJson_annotated.plain Generation.fromJson_terse.plain rfl hx hx'
      hs' (hundivided _) (hundivided _)

/-- A text with a description. -/
def describedText (description : String) : Definition :=
  { Definition.blank with type := some "string", notes := ⟨some description, .null, none, .null⟩ }

/-- An object with one of two texts, each with a description. -/
def eitherOf (one other : String) : Definition :=
  { Definition.blank with
    oneOf := some [{ Definition.blank with properties := some [("text", describedText one)] },
      { Definition.blank with properties := some [("text", describedText other)] }] }

/-- A description with the closing mark ends its own comment, and alternatives with descriptions of their
own stay apart when these are gone. -/
theorem comment_ended_note :
    (∃ m, typescriptEmitter.declaration (.text "Note") (describedText "all */ of it")
        ⟨.primitive .string, []⟩ = .ok m ∧
      Synthesis.ofSchema ⟨[]⟩ none (.text "Note") (describedText "all */ of it") =
        .ok ⟨.primitive .string, []⟩ ∧
      m.source = unlines ["/**", " * Generated.", " */", "/**", " * all */ of it", " */",
        "export type Note = string"] ∧
      ¬(Chunk.comment 0 ["all */ of it"]).Closes) ∧
    ∃ s s', Synthesis.ofSchema ⟨[]⟩ none (.text "Note") (eitherOf "a" "b") = .ok s ∧
      Synthesis.ofSchema ⟨[]⟩ none (.text "Note") (eitherOf "a" "a") = .ok s' ∧
      joined Chunk.bare (chunks 0 s.type) =
        "\x7b\n\treadonly text?: string\n\x7d | \x7b\n\treadonly text?: string\n\x7d" ∧
      joined Chunk.bare (chunks 0 s'.type) = "\x7b\n\treadonly text?: string\n\x7d" := by
  refine ⟨⟨_, rfl, rfl, ?_, ?_⟩, _, _, rfl, rfl, ?_, ?_⟩
  · decide +kernel
  · rw [closes_iff, not_not]
    decide +kernel
  · decide +kernel
  · decide +kernel

end Emitter

end SchemaDecl
