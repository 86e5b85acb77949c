import SchemaDecl.Proofs.TypeScript.Fidelity
import SchemaDecl.Proofs.TypeScript.Operands

/-! Types whose texts in TypeScript show what they are: no name is a word for a type of another form, the
brackets of an array belong to its whole item, and no documentation looks like the end of its comment. The
text of such a type gives back the type, with identifiers for names and in normal form. -/

namespace SchemaDecl.TypeScript

open TypeExpr (unionOf renamed Over Filled)
open Identifier (ofName isIdentifier_ofName isIdentifier_of_ofName_eq)
open List (Forall₂)

/-! ### Texts that show their types -/

/-- Nothing in the text of the type can be taken for another type, or for none. -/
inductive Clear : Nat → TypeExpr → Prop
  | reference {i : Nat} {n : String} {m : Option String} (h : m = none → ofName n ∉ typeWords)
      (hm : ∀ x ∈ m, Text.isIdentifier x) : Clear i (.reference n m)
  | union {i : Nat} {ms : List TypeExpr} (h : ∀ t ∈ ms, Clear i t) : Clear i (.union ms)
  | sequence {i : Nat} {t : TypeExpr} (hb : hasBar i t → isCompound t) (h : Clear i t) :
      Clear i (.sequence t)
  | record {i : Nat} {fs : List Field}
      (hd : ∀ f ∈ fs, ∀ line ∈ fieldDoc f.doc, ¬commentEnd (i + 1) <:+: line.toList)
      (h : ∀ f ∈ fs, Clear (i + 1) f.type) : Clear i (.record fs)
  | literals {i : Nat} (vs : List String) : Clear i (.literals vs)
  | primitive {i : Nat} (p : Primitive) : Clear i (.primitive p)

/-! ### Operands -/

theorem spellsOperand_reference (indent : Nat) {n : String} {m : Option String}
    (h : m = none → ofName n ∉ typeWords) (hm : ∀ x ∈ m, Text.isIdentifier x) :
    SpellsOperand indent (typeText indent (.reference n m)) (.reference (ofName n) m) := by
  cases m with
  | none =>
    have hword := spellsOperand_word indent (isIdentifier_ofName n)
    have hn := h rfl
    simp only [typeWords, List.mem_cons, List.not_mem_nil, or_false, not_or] at hn
    rwa [wordType, if_neg hn.1, if_neg hn.2.1, if_neg hn.2.2.1, if_neg hn.2.2.2] at hword
  | some m => exact spellsOperand_member indent (isIdentifier_ofName n) (hm m rfl)

theorem spellsOperand_primitive (indent : Nat) (p : Primitive) :
    SpellsOperand indent (primitive p) (.primitive p) := by
  cases p <;> exact spellsOperand_word indent (isIdentifier_of_ofName_eq (by decide +kernel))

theorem spellsOperand_object (indent : Nat) : SpellsOperand indent "object" (.record []) :=
  spellsOperand_word indent (isIdentifier_of_ofName_eq (by decide +kernel))

theorem spells_literals (indent : Nat) {vs : List String} (hne : vs ≠ []) :
    Spells indent (barSeparated (vs.map literal)) (vs.map fun v => .literals [v]) := by
  induction vs with
  | nil => exact absurd rfl hne
  | cons v vs ih =>
    have hliteral := (spellsOperand_literal indent v).spells
    cases vs with
    | nil => simpa [barSeparated] using hliteral
    | cons w vs =>
      have hbar := hliteral.bar (ih (List.cons_ne_nil _ _))
      rw [List.map_cons, List.map_cons, barSeparated, String.intercalate_cons_cons, ← List.map_cons]
      exact hbar

/-! ### Types -/

/-- The text of a type is read as alternatives that are those of the type, by other names, and as one
alone where no bar shows. -/
structure ReadsBack (indent : Nat) (t : TypeExpr) (alts : List TypeExpr) : Prop where
  spells : Spells indent (typeText indent t) alts
  alternatives : firstSeen (alts.flatMap TypeExpr.alternatives) =
    (firstSeen t.alternatives).map (renamed ofName)
  single : hasBar indent t = false → ∃ x, alts = [x]

theorem ReadsBack.canonical_eq {indent : Nat} {t : TypeExpr} {alts : List TypeExpr}
    (h : ReadsBack indent t alts) : (unionOf alts).canonical = t.canonical.renamed ofName := by
  rw [TypeExpr.canonical, TypeExpr.alternatives_unionOf, h.alternatives, ← TypeExpr.renamed_unionOf]
  rfl

/-- One alternative that is its own normal form. -/
theorem readsBack_operand {indent : Nat} {t x u : TypeExpr} (h : Spells indent (typeText indent t) [x])
    (ht : t.alternatives = [u]) (hx : x.alternatives = [u.renamed ofName]) : ReadsBack indent t [x] where
  spells := h
  alternatives := by
    rw [List.flatMap_singleton, hx, ht]
    rfl
  single _ := ⟨x, rfl⟩

theorem readsBack_literals (indent : Nat) {vs : List String} (hne : vs ≠ []) :
    ReadsBack indent (.literals vs) (vs.map fun v => .literals [v]) where
  spells := spells_literals indent hne
  alternatives := TypeExpr.alternatives_literals ofName vs
  single hb := by
    match vs with
    | [] => exact absurd rfl hne
    | [v] => exact ⟨_, rfl⟩
    | v :: w :: vs => simp [hasBar] at hb

theorem readsBack_union {N : String → Prop} (hN : ∀ a b, N a → N b → ofName a = ofName b → a = b)
    {indent : Nat} {ms : List TypeExpr} (hne : ms ≠ []) (ho : ∀ t ∈ ms, Over N t)
    (h : ∀ t ∈ ms, ∃ alts, ReadsBack indent t alts) : ∃ alts, ReadsBack indent (.union ms) alts := by
  have hreads : ∀ t ∈ ms, ∃ alts, Spells indent (typeText indent t) alts ∧ ReadsBack indent t alts :=
    fun t ht => (h t ht).imp fun alts ha => ⟨ha.spells, ha⟩
  obtain ⟨read, hm⟩ := Text.exists_reading hreads fun _ _ _ => Spells.unique
  have hover : ∀ x ∈ ms.flatMap TypeExpr.alternatives, Over N x := by
    intro x hx
    obtain ⟨t, ht, hx⟩ := List.mem_flatMap.1 hx
    exact TypeExpr.over_of_mem_alternatives (ho t ht) x hx
  have hne' : firstSeen (ms.map (typeText indent)) ≠ [] := by
    intro he
    obtain ⟨t, rest, rfl⟩ := List.exists_cons_of_ne_nil hne
    cases he
  refine ⟨(firstSeen (ms.map (typeText indent))).flatMap read, ?_, ?_, fun hb => ?_⟩
  · rw [typeText_union]
    refine spells_bars hne' fun text htext => ?_
    obtain ⟨t, ht, rfl⟩ := List.mem_map.1 (mem_firstSeen.1 htext)
    exact (hm t ht).1
  · rw [TypeExpr.alternatives_union]
    exact TypeExpr.alternatives_firstSeen_texts
      (fun x hx y hy => TypeExpr.renamed_inj hN (hover x hx) (hover y hy))
      fun t ht => (hm t ht).2.alternatives
  · rw [hasBar, Bool.or_eq_false_iff, anyBar_eq_false, typeTexts_eq, decide_eq_false_iff_not,
      Nat.not_lt] at hb
    obtain ⟨text, rest, he⟩ := List.exists_cons_of_ne_nil hne'
    obtain ⟨t, ht, rfl⟩ := List.mem_map.1 (mem_firstSeen.1 (he ▸ List.mem_cons_self))
    obtain rfl : rest = [] := List.eq_nil_of_length_eq_zero (by simpa [he] using hb.1)
    rw [he, List.flatMap_singleton]
    exact (hm t ht).2.single (hb.2 t ht)

theorem readsBack_sequence {indent : Nat} {t : TypeExpr} (hb : hasBar indent t → isCompound t)
    {alts : List TypeExpr} (h : ReadsBack indent t alts) :
    ReadsBack indent (.sequence t) [.sequence (unionOf alts)] := by
  refine readsBack_operand ?_ (TypeExpr.alternatives_sequence t) ?_
  · rw [typeText]
    cases hc : isCompound t with
    | true =>
      rw [if_pos rfl]
      exact @Spells.array _ _ [] _ h.spells.group.spells
    | false =>
      obtain ⟨x, rfl⟩ := h.single (by
        rw [Bool.eq_false_iff]
        intro hbar
        rw [hb hbar] at hc
        cases hc)
      rw [if_neg (by simp)]
      exact @Spells.array _ _ [] _ h.spells
  · rw [TypeExpr.alternatives_sequence, h.canonical_eq, renamed]

theorem readsBack_record {indent : Nat} {fs : List Field}
    (hd : ∀ f ∈ fs, ∀ line ∈ fieldDoc f.doc, ¬commentEnd (indent + 1) <:+: line.toList)
    (h : ∀ f ∈ fs, ∃ alts, ReadsBack (indent + 1) f.type alts) :
    ∃ alts, ReadsBack indent (.record fs) alts := by
  obtain ⟨fs', hfs, hn⟩ : ∃ fs', Forall₂ (FieldSpells (indent + 1)) fs fs' ∧
      fs'.map TypeExpr.normalField = (fs.map TypeExpr.normalField).map (TypeExpr.renamedField ofName) := by
    refine TypeExpr.exists_fields_read fun f hf => ?_
    obtain ⟨alts, ha⟩ := h f hf
    exact ⟨alts, ha.spells, ha.canonical_eq⟩
  refine ⟨[.record fs'], readsBack_operand ?_ (TypeExpr.alternatives_record fs) ?_⟩
  · cases fs with
    | nil =>
      cases hfs
      exact (spellsOperand_object indent).spells
    | cons f fs => exact (spellsOperand_record (List.cons_ne_nil _ _) hfs hd).spells
  · rw [TypeExpr.alternatives_record, TypeExpr.renamed_record, hn]

/-- The text of a type can be read wherever it shows the type. -/
theorem exists_readsBack {N : String → Prop} (hN : ∀ a b, N a → N b → ofName a = ofName b → a = b)
    {t : TypeExpr} (hf : t.Filled) :
    ∀ {indent}, Clear indent t → Over N t → ∃ alts, ReadsBack indent t alts := by
  induction hf with
  | reference n m =>
    intro indent hc _
    cases hc with
    | reference h hm => exact ⟨_, readsBack_operand (spellsOperand_reference indent h hm).spells rfl rfl⟩
  | union hne _ ih =>
    intro indent hc ho
    cases hc with
    | union h =>
      have ho := TypeExpr.over_union.1 ho
      exact readsBack_union hN hne ho fun t ht => ih t ht (h t ht) (ho t ht)
  | sequence _ ih =>
    intro indent hc ho
    cases hc with
    | sequence hb h =>
      obtain ⟨alts, ha⟩ := ih h ho
      exact ⟨_, readsBack_sequence hb ha⟩
  | record _ ih =>
    intro indent hc ho
    cases hc with
    | record hd h =>
      exact readsBack_record hd fun f hf => ih f hf (h f hf) (TypeExpr.over_record.1 ho f hf)
  | literals hne => exact fun {indent} _ _ => ⟨_, readsBack_literals indent hne⟩
  | primitive p =>
    exact fun {indent} _ _ => ⟨_, readsBack_operand (spellsOperand_primitive indent p).spells rfl rfl⟩

end SchemaDecl.TypeScript
