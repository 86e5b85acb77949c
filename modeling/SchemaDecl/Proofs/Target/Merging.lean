import SchemaDecl.Proofs.Python.Spelling
import SchemaDecl.Proofs.Target.Strings
import SchemaDecl.Proofs.TypeScript.Spelling

/-! Members of a union that merge. A member is left out where its text is that of a member before it, and
then both are the same type, as far as the language can tell types apart, unless one of them has a name
that is a word of the language for a type of its own. -/

namespace SchemaDecl

open Identifier (ofName)

/-! ### Types in types -/

namespace TypeExpr

/-- One type stands in the other one. -/
inductive Occurs (x : TypeExpr) : TypeExpr → Prop
  | self : Occurs x x
  | member {ms : List TypeExpr} {t : TypeExpr} (ht : t ∈ ms) (h : Occurs x t) : Occurs x (.union ms)
  | item {t : TypeExpr} (h : Occurs x t) : Occurs x (.sequence t)
  | field {fs : List Field} {f : Field} (hf : f ∈ fs) (h : Occurs x f.type) : Occurs x (.record fs)

theorem Occurs.filled {x t : TypeExpr} (h : Occurs x t) (ht : t.Filled) : x.Filled := by
  induction h with
  | self => exact ht
  | member hmem _ ih =>
    cases ht with
    | union _ ht => exact ih (ht _ hmem)
  | item _ ih =>
    cases ht with
    | sequence ht => exact ih ht
  | field hmem _ ih =>
    cases ht with
    | record ht => exact ih (ht _ hmem)

theorem Occurs.over {N : String → Prop} {x t : TypeExpr} (h : Occurs x t) (ht : Over N t) : Over N x := by
  induction h with
  | self => exact ht
  | member hmem _ ih => exact ih (over_union.1 ht _ hmem)
  | item _ ih => exact ih (over_sequence.1 ht)
  | field hmem _ ih => exact ih (over_record.1 ht _ hmem)

/-- The fields that are members of an enumeration have no union in them. -/
theorem Occurs.memberless {ms : List TypeExpr} {t : TypeExpr} (h : Occurs (.union ms) t)
    (ht : t.Memberless) : (TypeExpr.union ms).Memberless := by
  generalize hx : TypeExpr.union ms = x at h
  induction h with
  | self => exact hx ▸ ht
  | member hmem _ ih =>
    cases ht with
    | union _ ht => exact ih (ht _ hmem)
  | item _ ih =>
    cases ht with
    | sequence ht => exact ih ht
  | @field fs f hmem h ih =>
    cases ht with
    | record ht =>
      refine ih (ht _ hmem fun n m hf => ?_)
      rw [hf, ← hx] at h
      cases h

end TypeExpr

theorem Synthesis.Synthesized.memberless {doc : Document} {registry : Option Registry} {d : Definition}
    {leaves : List Definition.Leaf} {s : Synthesis} (h : Synthesized doc registry d leaves s) :
    s.type.Memberless := by
  cases h with
  | inner h => exact closed_memberless.ofDefinition d _ s h
  | object h =>
    obtain ⟨fs, rfl, hfs⟩ := closed_memberless.exists_fields_of_ofObject h
    exact memberless_record hfs
  | schema h => exact memberless_of_ofSchema h

namespace Target

/-! ### The words of a language -/

/-- The word for a primitive type. -/
def primitive (t : Target) (p : Primitive) : String :=
  match t with
  | .python => Python.primitive p
  | .typescript => TypeScript.primitive p

theorem typeText_reference_primitive (t : Target) (indent : Nat) (n : String) (p : Primitive) :
    t.typeText indent (.reference n none) = t.typeText indent (.primitive p) ↔
      ofName n = t.primitive p := by
  cases t <;> rfl

theorem typeText_reference_record (t : Target) (indent : Nat) (n : String) (fs : List Field) :
    t.typeText indent (.reference n none) = t.typeText indent (.record fs) ↔
      t = .typescript ∧ fs = [] ∧ ofName n = "object" := by
  cases t with
  | python =>
    refine iff_of_false (fun h => ?_) fun h => absurd h.1 (by decide)
    have hletters := List.all_eq_true.1 (Python.letters_ofName n)
    have hdict : ofName n = "dict[str, Any]" := h
    rw [hdict] at hletters
    exact absurd (hletters '[' (by decide)) (by decide)
  | typescript =>
    cases fs with
    | nil => simp [typeText, TypeScript.typeText]
    | cons f fs =>
      refine iff_of_false (fun h => ?_) fun h => List.cons_ne_nil f fs h.2.1
      obtain ⟨c, cs, hs, hc⟩ :=
        TypeScript.exists_cons_of_isIdentifier (Identifier.isIdentifier_ofName n)
      have hrecord : ofName n = TypeScript.typeText indent (.record (f :: fs)) := h
      rw [hrecord, TypeScript.typeText_record] at hs
      simp only [String.toList_append, List.append_assoc] at hs
      exact hc '\x7b' (by decide) (List.cons.inj hs).1.symm

/-! ### Types as the language tells them apart -/

/-- No text in the type is that of another type. In Python records have no names in them. -/
def Clear (t : Target) (indent : Nat) (x : TypeExpr) : Prop :=
  match t with
  | .python => x.erased.Over fun n => ofName n ∉ Python.typeWords
  | .typescript => TypeScript.Clear indent x

/-- The normal form of the type, in Python without the fields of records. -/
def normal (t : Target) (x : TypeExpr) : TypeExpr :=
  match t with
  | .python => x.erased.canonical
  | .typescript => x.canonical

/-- The text is read as these alternatives. -/
def Spells (t : Target) (indent : Nat) (text : String) (alts : List TypeExpr) : Prop :=
  match t with
  | .python => Python.Spells text alts
  | .typescript => TypeScript.Spells indent text alts

theorem Spells.unique {t : Target} {indent : Nat} {text : String} {alts alts' : List TypeExpr}
    (h : t.Spells indent text alts) (h' : t.Spells indent text alts') : alts = alts' := by
  cases t with
  | python => exact Python.Spells.unique h h'
  | typescript => exact TypeScript.Spells.unique h h'

section Normal

variable {N : String → Prop} {t : Target} {indent : Nat} {x y : TypeExpr}

theorem over_normal (h : x.Over N) : (t.normal x).Over N := by
  cases t with
  | python => exact TypeExpr.over_canonical (TypeExpr.over_erased h)
  | typescript => exact TypeExpr.over_canonical h

variable (hN : ∀ a b, N a → N b → ofName a = ofName b → a = b)

include hN

theorem exists_spells (hf : x.Filled) (hm : x.Memberless) (ho : x.Over N) (hc : t.Clear indent x) :
    ∃ alts, t.Spells indent (t.typeText indent x) alts ∧
      (TypeExpr.unionOf alts).canonical = (t.normal x).renamed ofName := by
  cases t with
  | python =>
    have hwords : x.erased.Over fun n => N n ∧ ofName n ∉ Python.typeWords :=
      fun n hn => ⟨TypeExpr.over_erased ho n hn, hc n hn⟩
    obtain ⟨alts, ha⟩ := Python.exists_faithful (fun a b ha hb => hN a b ha.1 hb.1)
      (fun n hn => hn.2) x hf hm hwords
    exact ⟨alts, ha.spells, ha.canonical_eq⟩
  | typescript =>
    obtain ⟨alts, ha⟩ := TypeScript.exists_readsBack hN hf hc ho
    exact ⟨alts, ha.spells, ha.canonical_eq⟩

/-- Types with one text have one normal form. -/
theorem normal_eq_of_typeText_eq (hfx : x.Filled) (hfy : y.Filled) (hmx : x.Memberless)
    (hmy : y.Memberless) (hox : x.Over N) (hoy : y.Over N) (hcx : t.Clear indent x)
    (hcy : t.Clear indent y) (h : t.typeText indent x = t.typeText indent y) :
    t.normal x = t.normal y := by
  obtain ⟨alts, hx, hnx⟩ := exists_spells hN hfx hmx hox hcx
  obtain ⟨alts', hy, hny⟩ := exists_spells hN hfy hmy hoy hcy
  rw [h] at hx
  obtain rfl := hx.unique hy
  exact TypeExpr.renamed_inj hN (over_normal hox) (over_normal hoy) (hnx.symm.trans hny)

end Normal

/-! ### Members that are left out -/

/-- The texts of the members that are written. -/
def written (t : Target) (indent : Nat) (ms : List TypeExpr) : List String :=
  firstSeen (ms.map (t.typeText indent))

theorem typeText_union (t : Target) (indent : Nat) (ms : List TypeExpr) :
    t.typeText indent (.union ms) = match t with
      | .python => Python.unionText (t.written indent ms)
      | .typescript => TypeScript.barSeparated (t.written indent ms) := by
  cases t with
  | python =>
    have hagain : Python.unionText (Target.python.written indent ms) =
        Python.unionText (ms.map Python.typeText) := by
      rw [Python.unionText, written, firstSeen_firstSeen]
      rfl
    rw [hagain, ← Python.typeTexts_eq_map]
    rfl
  | typescript => exact TypeScript.typeText_union indent ms

theorem exists_typeText_eq {t : Target} {indent : Nat} {front : List TypeExpr} {m : TypeExpr}
    (h : t.written indent (front ++ [m]) = t.written indent front) :
    ∃ e ∈ front, t.typeText indent e = t.typeText indent m := by
  have hmem : t.typeText indent m ∈ t.written indent (front ++ [m]) :=
    mem_firstSeen.2 (List.mem_map_of_mem (by simp))
  rw [h] at hmem
  exact List.mem_map.1 (mem_firstSeen.1 hmem)

/-- A member that is left out of a union is the same type as a member before it, unless one of the two has
a name in it that the language takes for one of its types, brackets that do not belong to the whole item
of an array, or documentation that looks like the end of its comment. By itself a name merges with a
primitive type exactly if it is the word for it, and with a record if it is the word for those
without fields. -/
theorem exists_same_of_left_out (doc : Document) (registry : Option Registry) (d : Definition)
    (leaves : List Definition.Leaf) (s : Synthesis) (h : Synthesis.Synthesized doc registry d leaves s)
    (hn : ∀ a b, .text a ∈ doc.names → .text b ∈ doc.names → ofName a = ofName b → a = b)
    (ms : List TypeExpr) (hms : TypeExpr.Occurs (.union ms) s.type) (t : Target) (indent : Nat) :
    (∀ front m back, ms = front ++ m :: back → t.written indent (front ++ [m]) = t.written indent front →
      ∃ e ∈ front, t.typeText indent e = t.typeText indent m ∧
        (t.Clear indent e → t.Clear indent m → t.normal e = t.normal m)) ∧
    (∀ n p, t.typeText indent (.reference n none) = t.typeText indent (.primitive p) ↔
      ofName n = t.primitive p) ∧
    ∀ n fs, t.typeText indent (.reference n none) = t.typeText indent (.record fs) ↔
      t = .typescript ∧ fs = [] ∧ ofName n = "object" := by
  refine ⟨?_, t.typeText_reference_primitive indent, t.typeText_reference_record indent⟩
  rintro front m back rfl hwritten
  obtain ⟨e, he, htext⟩ := exists_typeText_eq hwritten
  have hN := Synthesis.nameable_inj hn
  have hfilled := hms.filled h.filled
  have hover := TypeExpr.over_union.1 (hms.over h.over)
  have hmemberless := hms.memberless h.memberless
  cases hfilled with
  | union _ hfilled =>
    cases hmemberless with
    | union _ hmemberless =>
      refine ⟨e, he, htext, fun hce hcm => ?_⟩
      have he : e ∈ front ++ m :: back := List.mem_append_left _ he
      have hm : m ∈ front ++ m :: back := by simp
      exact normal_eq_of_typeText_eq hN (hfilled e he) (hfilled m hm) (hmemberless e he)
        (hmemberless m hm) (hover e he) (hover m hm) hce hcm htext

/-- A box, one of two that are the same box, or a text. -/
def boxes : Definition :=
  TypeScript.choice [Synthesis.pointer "Box",
    TypeScript.choice [Synthesis.pointer "Box", Synthesis.pointer "Box"],
    { Definition.blank with type := some "string" }]

def boxType : TypeExpr :=
  .reference "Box" none

theorem exists_same_of_left_out_boxes :
    ∃ s, Synthesis.ofSchema TypeScript.shelves none (.text "Shelf") boxes = .ok s ∧
      s.type = .union [boxType, .union [boxType, boxType], .primitive .string] ∧
      Target.python.written 0 [boxType, .union [boxType, boxType], .primitive .string] = ["Box", "str"] ∧
      Target.typescript.written 0 [boxType, .union [boxType, boxType], .primitive .string] =
        ["Box", "string"] ∧
      Target.python.normal boxType = Target.python.normal (.union [boxType, boxType]) ∧
      Target.typescript.normal boxType = Target.typescript.normal (.union [boxType, boxType]) := by
  have hnames : ∀ a, .text a ∈ TypeScript.shelves.names ↔ a ∈ ["Shelf", "Big-Box", "Box"] := by
    intro a
    simp [TypeScript.shelves, Document.names]
  have hboxes : ∀ a ∈ ["Shelf", "Big-Box", "Box"], ∀ b ∈ ["Shelf", "Big-Box", "Box"],
      ofName a = ofName b → a = b := by
    decide
  have h := fun s (hs : Synthesis.ofSchema TypeScript.shelves none (.text "Shelf") boxes = .ok s) =>
    exists_same_of_left_out TypeScript.shelves none boxes boxes.schemaLeaves s (.schema hs)
      fun a b ha hb => hboxes a ((hnames a).1 ha) b ((hnames b).1 hb)
  have hs := h _ rfl [boxType, .union [boxType, boxType], .primitive .string] .self
  obtain ⟨e, he, -, hpython⟩ :=
    (hs .python 0).1 [boxType] (.union [boxType, boxType]) _ rfl (by decide)
  obtain ⟨e', he', -, htypescript⟩ :=
    (hs .typescript 0).1 [boxType] (.union [boxType, boxType]) _ rfl (by decide)
  obtain rfl := List.mem_singleton.1 he
  obtain rfl := List.mem_singleton.1 he'
  have hwords : boxType.Over fun n => ofName n ∉ Python.typeWords :=
    TypeExpr.over_reference.2 (by decide)
  have hbox : TypeScript.Clear 0 boxType := .reference (fun _ => by decide) (by simp)
  have hpair : ∀ t ∈ [boxType, boxType], t = boxType := by simp
  exact ⟨_, rfl, rfl, by decide, by decide +kernel,
    hpython hwords (TypeExpr.over_union.2 fun t ht => hpair t ht ▸ hwords),
    htypescript hbox (.union fun t ht => hpair t ht ▸ hbox)⟩

/-- A text, or one of two schemas with names that are words for a text. -/
def words : Document :=
  ⟨[(.text "U", TypeScript.choice [{ Definition.blank with type := some "string" },
    Synthesis.pointer "str", Synthesis.pointer "string"]), (.text "str", .blank), (.text "string", .blank)]⟩

/-- A reference is left out for a primitive type. -/
theorem left_out_word :
    (∀ a b, .text a ∈ words.names → .text b ∈ words.names → ofName a = ofName b → a = b) ∧
    ∃ d s, words.entries.head? = some (.text "U", d) ∧
      Synthesis.ofSchema words none (.text "U") d = .ok s ∧
      s.type = .union [.primitive .string, .reference "str" none, .reference "string" none] ∧
      Target.python.written 0 [.primitive .string, .reference "str" none] = ["str"] ∧
      Target.python.normal (.primitive .string) ≠ Target.python.normal (.reference "str" none) ∧
      Target.typescript.written 0
        [.primitive .string, .reference "str" none, .reference "string" none] = ["string", "str"] ∧
      ∀ x ∈ [TypeExpr.primitive .string, .reference "str" none],
        Target.typescript.normal x ≠ Target.typescript.normal (.reference "string" none) := by
  have hnames : ∀ a, .text a ∈ words.names ↔ a ∈ ["U", "str", "string"] := by
    intro a
    simp [words, Document.names]
  have hwords : ∀ a ∈ ["U", "str", "string"], ∀ b ∈ ["U", "str", "string"],
      ofName a = ofName b → a = b := by
    decide
  exact ⟨fun a b ha hb => hwords a ((hnames a).1 ha) b ((hnames b).1 hb), _, _, rfl, rfl, rfl,
    by decide, by decide +kernel, by decide +kernel, by decide +kernel⟩

end Target

end SchemaDecl
