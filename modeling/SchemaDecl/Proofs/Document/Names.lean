import SchemaDecl.Document
import SchemaDecl.Proofs.Keyed

/-! Documents whose names are texts. If no name repeats either, a search by a name finds the definition
that stands under it, however many others there are. -/

namespace SchemaDecl

namespace Name

theorem isText_iff {s : String} {n : Name} : n.isText s = true ↔ n = .text s := by
  cases n <;> simp [isText]

theorem same_text (s t : String) : (Name.text t).same (.text s) = (t == s) := rfl

/-- Texts are the same name only if they are equal. -/
theorem same_iff {a b : Name} (ha : ∃ s, a = .text s) (hb : ∃ s, b = .text s) :
    a.same b = true ↔ a = b := by
  obtain ⟨s, rfl⟩ := ha
  obtain ⟨t, rfl⟩ := hb
  rw [same_text, beq_iff_eq, Name.text.injEq]

end Name

namespace Document

/-- Every name is a text. -/
def Textual (d : Document) : Prop :=
  ∀ e ∈ d.entries, ∃ s, e.1 = .text s

@[simp] theorem textual_nil : Textual ⟨[]⟩ := by
  simp [Textual]

@[simp] theorem textual_cons_text {s : String} {x : Definition} {entries : List (Name × Definition)} :
    Textual ⟨(.text s, x) :: entries⟩ ↔ Textual ⟨entries⟩ := by
  simp [Textual]

variable {d : Document}

theorem Textual.not_other (h : d.Textual) : ¬∃ e ∈ d.entries, ∃ v, e.1 = .other v := by
  rintro ⟨e, he, v, hv⟩
  obtain ⟨s, hs⟩ := h e he
  rw [hs] at hv
  cases hv

theorem text_mem_names {s : String} {x : Definition} (h : d.getText? s = some x) :
    .text s ∈ d.names := by
  obtain ⟨⟨n, y⟩, he, -⟩ := Option.map_eq_some_iff.1 h
  have hn : n.isText s = true := by simpa using List.find?_some he
  obtain rfl : n = .text s := Name.isText_iff.1 hn
  exact List.mem_map.2 ⟨_, List.mem_of_find?_eq_some he, rfl⟩

theorem getText?_eq_some_iff (hd : d.names.Nodup) {s : String} {x : Definition} :
    d.getText? s = some x ↔ (.text s, x) ∈ d.entries := by
  simp only [getText?, Option.map_eq_some_iff,
    find?_key_eq_some_iff (p := Name.isText s) (fun _ => Name.isText_iff) hd]
  constructor
  · rintro ⟨⟨n, y⟩, ⟨he, rfl⟩, rfl⟩
    exact he
  · intro h
    exact ⟨_, ⟨h, rfl⟩, rfl⟩

/-- One definition stands under a name. -/
theorem eq_of_mem_entries (hd : d.names.Nodup) {s : String} {x y : Definition}
    (hx : (.text s, x) ∈ d.entries) (hy : (.text s, y) ∈ d.entries) : x = y := by
  rw [← getText?_eq_some_iff hd] at hx hy
  exact Option.some.inj (hx.symm.trans hy)

/-- Among texts both searches by a name come to the same. -/
theorem get?_text (hn : d.Textual) (s : String) : d.get? (.text s) = d.getText? s := by
  obtain ⟨entries⟩ := d
  induction entries with
  | nil => rfl
  | cons e entries ih =>
    obtain ⟨n, x⟩ := e
    obtain ⟨t, ht⟩ := hn _ List.mem_cons_self
    obtain rfl : n = .text t := ht
    have ih := ih fun e he => hn e (List.mem_cons_of_mem _ he)
    simp only [get?, getText?, List.find?_cons, Name.same_text, Name.isText] at ih ⊢
    cases t == s
    · exact ih
    · rfl

/-- What a document says of a definition does not depend on the others. -/
theorem sentinelKind_eq (hn : d.Textual) {s : String} {x : Definition} (hx : d.getText? s = some x) :
    d.sentinelKind (.text s) = x.discriminant.bind fun tag => sentinels.lookup tag := by
  rw [sentinelKind, discriminantOf, get?_text hn, hx]
  rfl

end Document

end SchemaDecl
