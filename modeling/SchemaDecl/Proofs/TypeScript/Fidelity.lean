import SchemaDecl.Proofs.Synthesis.Dependencies
import SchemaDecl.Proofs.TypeScript.Denotation

/-! What the text of a type denotes is the type that it was made of, with identifiers for names and in
normal form, unless brackets come behind a bar that nothing encloses, documentation ends its own comment,
or a name is one that types of another form begin with. -/

namespace SchemaDecl

/-! ### Types as they are synthesized -/

/-- Unions and sets of texts have members. -/
inductive TypeExpr.Filled : TypeExpr → Prop
  | reference (n : String) (m : Option String) : Filled (.reference n m)
  | union {ms : List TypeExpr} (hne : ms ≠ []) (h : ∀ t ∈ ms, Filled t) : Filled (.union ms)
  | sequence {t : TypeExpr} (h : Filled t) : Filled (.sequence t)
  | record {fs : List Field} (h : ∀ f ∈ fs, Filled f.type) : Filled (.record fs)
  | literals {vs : List String} (hne : vs ≠ []) : Filled (.literals vs)
  | primitive (p : Primitive) : Filled (.primitive p)

namespace Synthesis

open List (Forall₂)

variable {doc : Document} {registry : Option Registry}

theorem filled_record {name : Name} {required : List String} {ps : List (String × Definition)}
    {fs : List (Field × List String)}
    (h : Forall₂ (FieldRule doc registry name required fun _ _ s => s.type.Filled) ps fs) :
    (ofFields fs).type.Filled := by
  refine .record fun f hf => ?_
  obtain ⟨x, hx, rfl⟩ := List.mem_map.1 hf
  obtain ⟨p, -, hp⟩ := exists_of_forall₂ h hx
  cases hp with
  | member _ _ => exact .reference _ _
  | plain _ _ ht _ => exact ht

theorem closed_filled : Closed doc registry fun _ _ s => s.type.Filled where
  reference _ _ := .reference _ _
  literals _ _ hne := .literals hne
  union _ _ _ hne h := by
    obtain ⟨hne, hmembers⟩ := forall_types_of_forall₂ hne h
    exact .union hne hmembers
  sequence _ _ _ _ _ _ h := .sequence h
  record _ _ _ _ _ h := filled_record h
  primitive _ _ _ _ _ _ := .primitive _

theorem Synthesized.filled {d : Definition} {leaves : List Definition.Leaf} {s : Synthesis}
    (h : Synthesized doc registry d leaves s) : s.type.Filled := by
  cases h with
  | inner h => exact closed_filled.ofDefinition d _ s h
  | object h =>
    obtain ⟨fs, rfl, hfs⟩ := closed_filled.exists_fields_of_ofObject h
    exact filled_record hfs
  | schema h =>
    rcases closed_filled.of_ofSchema h with ⟨-, fs, rfl, hfs⟩ | ⟨-, hs⟩
    · exact filled_record hfs
    · exact hs

/-- The names of the types that all documents share. -/
def sharedNames : List String :=
  ["TypeRegistry", "ApiObjectRef", "ApiCollectionRef"]

/-- A name that types over a document may hold. -/
def Nameable (doc : Document) (n : String) : Prop :=
  .text n ∈ doc.names ∨ n ∈ sharedNames

theorem Synthesized.over {d : Definition} {leaves : List Definition.Leaf} {s : Synthesis}
    (h : Synthesized doc registry d leaves s) : s.type.Over (Nameable doc) := by
  intro n hn
  obtain ⟨link, hl, rfl⟩ := List.mem_map.1 hn
  obtain ⟨leaf, hm, hs⟩ := exists_of_forall₂ h.traces.links hl
  generalize hlink : link.1 = n
  cases hlink ▸ origin_of_shows hs hm with
  | registry _ => exact Or.inr (by decide)
  | object _ _ => exact Or.inr (by decide)
  | collection _ _ => exact Or.inr (by decide)
  | definition _ hname _ => exact Or.inl hname

/-- Names of shared types are no identifiers of other names. -/
theorem eq_of_ofName_eq_shared {a b : String} (ha : a ∈ sharedNames)
    (h : Identifier.ofName a = Identifier.ofName b) : a = b := by
  have hall : ∀ n ∈ sharedNames, Identifier.ofName n = n ∧ '_' ∉ n.toList := by decide
  obtain ⟨hself, hu⟩ := hall a ha
  rw [hself] at h
  rw [h] at hu ⊢
  exact Identifier.ofName_eq_self hu

/-- What may be named has a name of its own as soon as the names of the document have. -/
theorem nameable_inj
    (hn : ∀ a b, .text a ∈ doc.names → .text b ∈ doc.names →
      Identifier.ofName a = Identifier.ofName b → a = b) (a b : String) (ha : Nameable doc a)
    (hb : Nameable doc b) (h : Identifier.ofName a = Identifier.ofName b) : a = b := by
  rcases ha with ha | ha
  · rcases hb with hb | hb
    · exact hn a b ha hb h
    · exact (eq_of_ofName_eq_shared hb h.symm).symm
  · exact eq_of_ofName_eq_shared ha h

end Synthesis

namespace TypeScript

open TypeExpr (unionOf renamed Over Filled)
open Identifier (ofName)
open List (Forall₂)

/-! ### Types whose texts can be read -/

mutual

/-- Whether there is a bar in the text of a type that nothing encloses. -/
def hasBar (indent : Nat) : TypeExpr → Bool
  | .union ms => 1 < (firstSeen (typeTexts indent ms)).length || anyBar indent ms
  | .literals vs => 1 < vs.length
  | _ => false

def anyBar (indent : Nat) : List TypeExpr → Bool
  | [] => false
  | t :: rest => hasBar indent t || anyBar indent rest

end

theorem anyBar_eq_false {indent : Nat} {ms : List TypeExpr} :
    anyBar indent ms = false ↔ ∀ t ∈ ms, hasBar indent t = false := by
  induction ms with
  | nil => simp [anyBar]
  | cons t ms ih => rw [anyBar, Bool.or_eq_false_iff, ih, List.forall_mem_cons]

/-- Names begin no type of another form, members are words, the item of an array is enclosed where
its text has a bar, and no documentation ends its comment. -/
inductive Legible : Nat → TypeExpr → Prop
  | reference {i : Nat} {n : String} {m : Option String} (h : ofName n ∉ typeOperators)
      (hm : ∀ x ∈ m, Text.isIdentifier x) : Legible i (.reference n m)
  | union {i : Nat} {ms : List TypeExpr} (h : ∀ t ∈ ms, Legible i t) : Legible i (.union ms)
  | sequence {i : Nat} {t : TypeExpr} (hb : hasBar i t → isCompound t) (h : Legible i t) :
      Legible i (.sequence t)
  | record {i : Nat} {fs : List Field}
      (hd : ∀ f ∈ fs, ∀ line ∈ fieldDoc f.doc, mentions "*/" line = false)
      (h : ∀ f ∈ fs, Legible (i + 1) f.type) : Legible i (.record fs)
  | literals {i : Nat} (vs : List String) : Legible i (.literals vs)
  | primitive {i : Nat} (p : Primitive) : Legible i (.primitive p)

/-! ### Fidelity -/

theorem typeTexts_eq (indent : Nat) (ms : List TypeExpr) :
    typeTexts indent ms = ms.map (typeText indent) := by
  induction ms with
  | nil => rfl
  | cons t ms ih => rw [typeTexts, ih, List.map_cons]

/-- The text of a type denotes alternatives that are those of the type, by other names, and only one
exactly where no bar shows. -/
structure Faithful (indent : Nat) (t : TypeExpr) (alts : List TypeExpr) : Prop where
  denotes : Denotes (typeText indent t) alts
  alternatives : firstSeen (alts.flatMap TypeExpr.alternatives) =
    (firstSeen t.alternatives).map (renamed ofName)
  single : hasBar indent t = false ↔ ∃ x, alts = [x]

theorem Faithful.canonical_eq {indent : Nat} {t : TypeExpr} {alts : List TypeExpr}
    (h : Faithful indent t alts) : (unionOf alts).canonical = t.canonical.renamed ofName := by
  rw [TypeExpr.canonical, TypeExpr.alternatives_unionOf, h.alternatives, ← TypeExpr.renamed_unionOf]
  rfl

/-- One operand, of which no more is to be shown than what it denotes and its normal form. -/
theorem faithful_operand {indent : Nat} {t x : TypeExpr} (hd : Denotes (typeText indent t) [x])
    (hb : hasBar indent t = false) {u : TypeExpr} (ht : t.alternatives = [u])
    (hx : x.alternatives = [u.renamed ofName]) : Faithful indent t [x] where
  denotes := hd
  alternatives := by
    rw [List.flatMap_singleton, hx, ht]
    rfl
  single := ⟨fun _ => ⟨x, rfl⟩, fun _ => hb⟩

theorem faithful_literals (indent : Nat) {vs : List String} (hne : vs ≠ []) :
    Faithful indent (.literals vs) (vs.map fun v => .literals [v]) where
  denotes := by
    have hparts : Forall₂ Denotes (vs.map literal) (vs.map fun v => [.literals [v]]) :=
      List.forall₂_map_left_iff.2 (List.forall₂_map_right_iff.2
        (List.forall₂_same.2 fun v _ => denotes_literal v))
    have hflat : (vs.map fun v => [TypeExpr.literals [v]]).flatten = vs.map fun v => .literals [v] :=
      List.flatMap_pure_eq_map _ vs
    rw [typeText, ← hflat]
    exact denotes_barSeparated hparts (by simpa using hne)
  alternatives := TypeExpr.alternatives_literals ofName vs
  single := by
    obtain ⟨v, rest, rfl⟩ := List.exists_cons_of_ne_nil hne
    cases rest with
    | nil => exact ⟨fun _ => ⟨_, rfl⟩, fun _ => rfl⟩
    | cons w rest => simp [hasBar]

/-! ### Unions -/

theorem eq_singleton_of_append {α : Type} {xs ys : List α} (hne : xs ≠ []) (h : ∃ x, xs ++ ys = [x]) :
    (∃ x, xs = [x]) ∧ ys = [] := by
  obtain ⟨x, h⟩ := h
  obtain ⟨y, rest, rfl⟩ := List.exists_cons_of_ne_nil hne
  obtain ⟨rfl, hnil⟩ := List.cons.inj h
  obtain ⟨rfl, rfl⟩ := List.append_eq_nil_iff.1 hnil
  exact ⟨⟨y, rfl⟩, rfl⟩

section Union

variable {indent : Nat} {ms : List TypeExpr}

/-- The alternatives that a text denotes, if it is that of a type. -/
def alternativesIn (text : String) : List TypeExpr :=
  (readAlternatives text).getD []

theorem Faithful.alternativesIn_eq {t : TypeExpr} {alts : List TypeExpr} (h : Faithful indent t alts) :
    alternativesIn (typeText indent t) = alts := by
  rw [alternativesIn, h.denotes.readAlternatives_eq]
  rfl

/-- Members with one text are the same, so one text for each is enough. -/
theorem alternatives_of_texts {N : String → Prop}
    (hN : ∀ a b, N a → N b → ofName a = ofName b → a = b) (ho : ∀ t ∈ ms, Over N t)
    (h : ∀ t ∈ ms, Faithful indent t (alternativesIn (typeText indent t))) :
    firstSeen (((firstSeen (ms.map (typeText indent))).flatMap alternativesIn).flatMap
      TypeExpr.alternatives) = (firstSeen (ms.flatMap TypeExpr.alternatives)).map (renamed ofName) := by
  have hover : ∀ x ∈ ms.flatMap TypeExpr.alternatives, Over N x := by
    intro x hx
    obtain ⟨t, ht, hx⟩ := List.mem_flatMap.1 hx
    exact TypeExpr.over_of_mem_alternatives (ho t ht) x hx
  exact TypeExpr.alternatives_firstSeen_texts
    (fun x hx y hy => TypeExpr.renamed_inj hN (hover x hx) (hover y hy))
    fun t ht => (h t ht).alternatives

theorem faithful_union {N : String → Prop} (hN : ∀ a b, N a → N b → ofName a = ofName b → a = b)
    (hne : ms ≠ []) (ho : ∀ t ∈ ms, Over N t) (h : ∀ t ∈ ms, ∃ alts, Faithful indent t alts) :
    ∃ alts, Faithful indent (.union ms) alts := by
  have hm : ∀ t ∈ ms, Faithful indent t (alternativesIn (typeText indent t)) := by
    intro t ht
    obtain ⟨alts, ha⟩ := h t ht
    rwa [ha.alternativesIn_eq]
  have hmem : ∀ text ∈ firstSeen (ms.map (typeText indent)), ∃ t ∈ ms, typeText indent t = text :=
    fun text htext => List.mem_map.1 (mem_firstSeen.1 htext)
  have hne' : firstSeen (ms.map (typeText indent)) ≠ [] := by
    intro he
    obtain ⟨t, rest, rfl⟩ := List.exists_cons_of_ne_nil hne
    cases he
  refine ⟨(firstSeen (ms.map (typeText indent))).flatMap alternativesIn, ?_, ?_, ?_⟩
  · rw [typeText, typeTexts_eq]
    refine denotes_barSeparated (List.forall₂_map_right_iff.2 ?_) hne'
    refine List.forall₂_same.2 fun text htext => ?_
    obtain ⟨t, ht, rfl⟩ := hmem text htext
    exact (hm t ht).denotes
  · rw [TypeExpr.alternatives_union]
    exact alternatives_of_texts hN ho hm
  · rw [hasBar, Bool.or_eq_false_iff, anyBar_eq_false, typeTexts_eq, decide_eq_false_iff_not,
      Nat.not_lt]
    obtain ⟨text, rest, he⟩ := List.exists_cons_of_ne_nil hne'
    obtain ⟨t, ht, rfl⟩ := hmem text (he ▸ List.mem_cons_self)
    rw [he, List.flatMap_cons]
    constructor
    · rintro ⟨hlen, hbars⟩
      obtain rfl : rest = [] := List.eq_nil_of_length_eq_zero (by simpa using hlen)
      rw [List.flatMap_nil, List.append_nil]
      exact (hm t ht).single.1 (hbars t ht)
    · intro hone
      obtain ⟨hfirst, hrest⟩ := eq_singleton_of_append (hm t ht).denotes.ne_nil hone
      have hall : rest = [] := by
        cases rest with
        | nil => rfl
        | cons text' rest =>
          obtain ⟨t', ht', rfl⟩ := hmem text' (he ▸ List.mem_cons_of_mem _ List.mem_cons_self)
          rw [List.flatMap_cons, List.append_eq_nil_iff] at hrest
          exact absurd hrest.1 (hm t' ht').denotes.ne_nil
      subst hall
      refine ⟨by simp, fun t' ht' => (hm t' ht').single.2 ?_⟩
      have htext : typeText indent t' ∈ [typeText indent t] :=
        he ▸ mem_firstSeen.2 (List.mem_map.2 ⟨t', ht', rfl⟩)
      rwa [List.mem_singleton.1 htext]

end Union

/-! ### All types -/

theorem faithful_sequence {indent : Nat} {t : TypeExpr} (hb : hasBar indent t → isCompound t)
    {alts : List TypeExpr} (h : Faithful indent t alts) :
    Faithful indent (.sequence t) [.sequence (unionOf alts)] := by
  refine faithful_operand ?_ rfl (TypeExpr.alternatives_sequence t) ?_
  · rw [typeText]
    cases hc : isCompound t with
    | true =>
      rw [if_pos rfl]
      exact @Denotes.array _ [] _ h.denotes.group
    | false =>
      obtain ⟨x, rfl⟩ := h.single.1 (by
        rw [Bool.eq_false_iff]
        intro hbar
        rw [hb hbar] at hc
        cases hc)
      rw [if_neg (by simp)]
      exact @Denotes.array _ [] _ h.denotes
  · rw [TypeExpr.alternatives_sequence, h.canonical_eq, renamed]

/-- The brackets of an array belong to the whole item exactly where the item is enclosed or has no
bar. -/
theorem read_sequence_iff {indent : Nat} {t : TypeExpr} {alts : List TypeExpr}
    (h : Faithful indent t alts) :
    (∃ x, read (typeText indent (.sequence t)) = some (.sequence x)) ↔
      (hasBar indent t → isCompound t) := by
  refine ⟨fun ⟨x, hx⟩ hbar => ?_, fun hb => ⟨_, (faithful_sequence hb h).denotes.read_eq⟩⟩
  by_contra hc
  obtain ⟨front, last, rfl⟩ := List.eq_nil_or_concat' alts |>.resolve_left h.denotes.ne_nil
  have hfront : front ≠ [] := by
    rintro rfl
    rw [h.single.2 ⟨last, rfl⟩] at hbar
    cases hbar
  obtain ⟨y, rest, rfl⟩ := List.exists_cons_of_ne_nil hfront
  rw [typeText, if_neg hc, h.denotes.array.read_eq] at hx
  cases rest <;> cases hx

theorem exists_fields {indent : Nat} {fs : List Field}
    (h : ∀ f ∈ fs, ∃ alts, Faithful indent f.type alts) :
    ∃ fs', Forall₂ (FieldDenotes indent) fs fs' ∧
      fs'.map TypeExpr.normalField =
        (fs.map TypeExpr.normalField).map (TypeExpr.renamedField ofName) := by
  refine TypeExpr.exists_fields_read fun f hf => ?_
  obtain ⟨alts, ha⟩ := h f hf
  exact ⟨alts, ha.denotes, ha.canonical_eq⟩

theorem faithful_record {indent : Nat} {fs : List Field}
    (hd : ∀ f ∈ fs, ∀ line ∈ fieldDoc f.doc, mentions "*/" line = false)
    (h : ∀ f ∈ fs, ∃ alts, Faithful (indent + 1) f.type alts) :
    ∃ alts, Faithful indent (.record fs) alts := by
  obtain ⟨fs', hfs, hn⟩ := exists_fields h
  refine ⟨[.record fs'], faithful_operand ?_ rfl (TypeExpr.alternatives_record fs) ?_⟩
  · cases fs with
    | nil =>
      cases hfs
      exact denotes_object
    | cons f fs => exact denotes_record hd hfs
  · rw [TypeExpr.alternatives_record, TypeExpr.renamed_record, hn]

/-- The text of a type can be read wherever it is legible. -/
theorem exists_faithful {N : String → Prop} (hN : ∀ a b, N a → N b → ofName a = ofName b → a = b)
    (hb : ∀ n, N n → ofName n ∉ builtinTypes) {t : TypeExpr} (hf : t.Filled) :
    ∀ {indent}, Legible indent t → Over N t → ∃ alts, Faithful indent t alts := by
  induction hf with
  | reference n m =>
    intro indent hl ho
    have hbuiltin := hb n (TypeExpr.over_reference.1 ho)
    cases hl with
    | reference h hm =>
      refine ⟨[.reference (ofName n) m], faithful_operand ?_ rfl rfl rfl⟩
      cases m with
      | none => exact denotes_reference hbuiltin h
      | some m => exact denotes_member hbuiltin h (hm m rfl)
  | union hne _ ih =>
    intro indent hl ho
    cases hl with
    | union h =>
      have ho := TypeExpr.over_union.1 ho
      exact faithful_union hN hne ho fun t ht => ih t ht (h t ht) (ho t ht)
  | sequence _ ih =>
    intro indent hl ho
    cases hl with
    | sequence hbar h =>
      obtain ⟨alts, ha⟩ := ih h ho
      exact ⟨_, faithful_sequence hbar ha⟩
  | record _ ih =>
    intro indent hl ho
    cases hl with
    | record hd h =>
      exact faithful_record hd fun f hf => ih f hf (h f hf) (TypeExpr.over_record.1 ho f hf)
  | literals hne => exact fun {indent} _ _ => ⟨_, faithful_literals indent hne⟩
  | primitive p => exact fun _ _ => ⟨_, faithful_operand (denotes_primitive p) rfl rfl rfl⟩

/-- The text of a type that a definition got denotes that type, by identifiers for the names and in
normal form, where the names of the document have identifiers of their own and none of them is a type
of the language. -/
theorem read_typeText (doc : Document) (registry : Option Registry) (d : Definition)
    (leaves : List Definition.Leaf) (s : Synthesis) (h : Synthesis.Synthesized doc registry d leaves s)
    (hn : ∀ a b, .text a ∈ doc.names → .text b ∈ doc.names → ofName a = ofName b → a = b)
    (hb : ∀ a, .text a ∈ doc.names → ofName a ∉ builtinTypes) (indent : Nat)
    (hl : Legible indent s.type) :
    ∃ t, read (typeText indent s.type) = some t ∧ t.canonical = s.type.canonical.renamed ofName := by
  have hbuiltin : ∀ n, Synthesis.Nameable doc n → ofName n ∉ builtinTypes := by
    have hshared : ∀ n ∈ Synthesis.sharedNames, ofName n ∉ builtinTypes := by decide
    rintro n (hn | hn)
    · exact hb n hn
    · exact hshared n hn
  obtain ⟨alts, ha⟩ := exists_faithful (Synthesis.nameable_inj hn) hbuiltin h.filled hl h.over
  exact ⟨unionOf alts, ha.denotes.read_eq, ha.canonical_eq⟩

/-- Alternatives of one definition or of several. -/
def choice (bs : List Definition) : Definition :=
  { Definition.blank with oneOf := some bs }

def listOf (item : Definition) : Definition :=
  { Definition.blank with type := some "array", items := some item }

/-- A list whose items are one of three: a box of either kind, or one without a kind. -/
def shelf : Definition :=
  { Definition.blank with
    properties := some [("on top", listOf (choice [choice [Synthesis.pointer "Big-Box"],
      choice [Synthesis.pointer "Box", { Definition.blank with enum := some ["none"] }],
      Synthesis.pointer "Box"]))] }

def shelves : Document :=
  ⟨[(.text "Shelf", shelf), (.text "Big-Box", .blank), (.text "Box", .blank)]⟩

theorem read_typeText_shelf :
    ∃ s t, Synthesis.ofSchema shelves none (.text "Shelf") shelf = .ok s ∧
      read (typeText 0 s.type) = some t ∧
      t.canonical = .record [.mk "on top" (.sequence (.union
        [.reference "Big_Box" none, .reference "Box" none, .literals ["none"]])) false {}] := by
  have hnames : ∀ a, .text a ∈ shelves.names ↔ a ∈ ["Shelf", "Big-Box", "Box"] := by
    intro a
    simp [shelves, Document.names]
  have hboxes : ∀ a ∈ ["Shelf", "Big-Box", "Box"], ofName a ∉ builtinTypes ∧
      ∀ b ∈ ["Shelf", "Big-Box", "Box"], ofName a = ofName b → a = b := by
    decide
  have href : ∀ i, ∀ n ∈ ["Big-Box", "Box"], Legible i (.reference n none) := by
    have hwords : ∀ n ∈ ["Big-Box", "Box"], ofName n ∉ typeOperators := by decide
    exact fun i n hn => .reference (hwords n hn) (by simp)
  have h := fun s (hs : Synthesis.ofSchema shelves none (.text "Shelf") shelf = .ok s) =>
    read_typeText shelves none shelf shelf.schemaLeaves s (.schema hs)
      (fun a b ha hb => (hboxes a ((hnames a).1 ha)).2 b ((hnames b).1 hb))
      (fun a ha => (hboxes a ((hnames a).1 ha)).1) 0
  obtain ⟨t, ht, hc⟩ := h _ rfl (.record (by decide) (by
    simp only [List.map_cons, List.map_nil, List.forall_mem_singleton]
    refine .sequence (by decide) (.union ?_)
    simp only [List.forall_mem_cons]
    refine ⟨.union ?_, .union ?_, href _ _ (by decide), by simp⟩
    · simp only [List.forall_mem_singleton]
      exact href _ _ (by decide)
    · simp only [List.forall_mem_cons]
      exact ⟨href _ _ (by decide), .literals _, by simp⟩))
  refine ⟨_, t, rfl, ht, hc.trans ?_⟩
  decide

/-- A list whose items are one of one: that one of two. -/
def pick : Definition :=
  listOf (choice [choice [Synthesis.pointer "Big-Box", Synthesis.pointer "Box"]])

/-- Where alternatives stand alone among alternatives no parentheses enclose them, and the brackets of
an array belong to the last of them. -/
theorem read_typeText_pick :
    ∃ s, Synthesis.ofSchema shelves none (.text "Pick") pick = .ok s ∧
      typeText 0 s.type = "Big_Box | Box[]" ∧
      read (typeText 0 s.type) =
        some (.union [.reference "Big_Box" none, .sequence (.reference "Box" none)]) ∧
      s.type.canonical.renamed ofName =
        .sequence (.union [.reference "Big_Box" none, .reference "Box" none]) :=
  ⟨_, rfl, by decide, by decide +kernel, by decide +kernel⟩

end TypeScript

end SchemaDecl
