import SchemaDecl.Proofs.Generation.Causes
import SchemaDecl.Proofs.Registry.History
import SchemaDecl.Proofs.Synthesis.Agreement

/-! Documents that grow. Further definitions take nothing away from those that were there: with the
registry of the earlier run the members stay, references find what they found before, and each module
comes out as it was. -/

namespace SchemaDecl

open Definition (Leaf)

/-- The second document is the first one with further definitions in it. None of these declares a
discriminant that the first one has in a tag property without declaring it. -/
structure Document.Insertion (d d' : Document) : Prop where
  sublist : d.entries.Sublist d'.entries
  tags : ∀ x ∈ d'.entries, x.1 ∉ d.names → ∀ tag, x.2.discriminant = some tag →
    d.Declares tag ∨ ∀ y ∈ d.entries, Leaf.member (some tag) ∉ y.2.schemaLeaves

namespace Synthesis

open List (Forall₂)

variable {d d' : Document}

/-- A reference that is resolved is the same in a longer document. -/
theorem ofRef_of_sublist (hd' : d'.Plain) (hs : d.entries.Sublist d'.entries) {ref : String}
    {x : Definition} (hx : d.getText? (Document.refTarget ref) = some x) (owner : Option Name) :
    ofRef d ref owner = ofRef d' ref owner := by
  have hd := hd'.of_sublist hs
  have hx' : d'.getText? (Document.refTarget ref) = some x :=
    (Document.getText?_eq_some_iff hd'.nodup).2
      (hs.subset ((Document.getText?_eq_some_iff hd.nodup).1 hx))
  simp only [ofRef, Document.resolve, hx, hx', Document.sentinelKind_eq hd.textual hx,
    Document.sentinelKind_eq hd'.textual hx']

end Synthesis

namespace Registry

variable {d d' : Document} {previous : List Entry} {r r' : Registry}

/-- A discriminant that both documents declare, or neither, has the same member in the registry built
on that of the first document. -/
theorem identifierFor_eq_of_build (hd : d.Textual) (hd' : d'.Textual)
    (hr : (build d previous).result = .ok r) (hr' : (build d' r.entries).result = .ok r') {tag : String}
    (h : d.Declares tag ↔ d'.Declares tag) : r.identifierFor tag = r'.identifierFor tag := by
  cases hi : r.identifierFor tag with
  | some identifier =>
    have hdeclared : d.Declares tag := (exists_identifierFor_iff_declares hd hr).1 ⟨_, hi⟩
    have hm := identifierFor_eq_some_iff.1 hi
    exact (identifierFor_eq_some_iff.2 (mem_entries_of_build hd' hr' hm (h.1 hdeclared))).symm
  | none =>
    cases hi' : r'.identifierFor tag with
    | none => rfl
    | some identifier =>
      have hdeclared : d'.Declares tag := (exists_identifierFor_iff_declares hd' hr').1 ⟨_, hi'⟩
      obtain ⟨_, hsome⟩ := (exists_identifierFor_iff_declares hd hr).2 (h.2 hdeclared)
      rw [hi] at hsome
      cases hsome

end Registry

namespace Generation

open Registry (Entry)

variable {d d' : Document}

/-- A definition with a name of the shorter document is one of it. -/
theorem mem_of_name_mem (hn : d'.names.Nodup) (hs : d.entries.Sublist d'.entries)
    {x : Name × Definition} (hx : x ∈ d'.entries) (hm : x.1 ∈ d.names) : x ∈ d.entries := by
  obtain ⟨y, hy, hyx⟩ := List.mem_map.1 hm
  have : y = x := List.inj_on_of_nodup_map hn (hs.subset hy) hx hyx
  exact this ▸ hy

/-- The discriminant of a tag property is declared in both documents or in neither. -/
theorem declares_iff_of_insertion (hd' : d'.Plain) (hi : d.Insertion d') {y : Name × Definition}
    (hy : y ∈ d.entries) {tag : String} (hl : Leaf.member (some tag) ∈ y.2.schemaLeaves) :
    d.Declares tag ↔ d'.Declares tag := by
  constructor
  · rintro ⟨x, hx, ht⟩
    exact ⟨x, hi.sublist.subset hx, ht⟩
  · rintro ⟨x, hx, ht⟩
    by_cases hm : x.1 ∈ d.names
    · exact ⟨x, mem_of_name_mem hd'.nodup hi.sublist hx hm, ht⟩
    · rcases hi.tags x hx hm tag ht with h | h
      · exact h
      · exact absurd hl (h y hy)

/-- A definition that has a type has the same one in the longer document. -/
theorem ofSchema_of_insertion (hd' : d'.Plain) (hi : d.Insertion d') {previous : List Entry}
    {r r' : Registry} (hr : (Registry.build d previous).result = .ok r)
    (hr' : (Registry.build d' r.entries).result = .ok r') {name : Name} {x : Definition}
    (hx : (name, x) ∈ d.entries) {s : Synthesis}
    (h : Synthesis.ofSchema d (some r) name x = .ok s) :
    Synthesis.ofSchema d' (some r') name x = .ok s := by
  rw [← h]
  refine (Synthesis.ofSchema_congr fun leaf hl => ?_).symm
  obtain ⟨link, -, hshows⟩ := (Synthesis.traces_ofSchema h).exists_shows hl
  -- a tag property without a text for an example has no member in either registry
  have hmember : ∀ tag, leaf = .member tag →
      (tag.bind r.identifierFor) = tag.bind r'.identifierFor := by
    rintro (_ | tag) rfl
    · rfl
    · exact Registry.identifierFor_eq_of_build (hd'.of_sublist hi.sublist).textual hd'.textual hr hr'
        (declares_iff_of_insertion hd' hi hx hl)
  cases hshows with
  | reference hfound => exact Synthesis.ofRef_of_sublist hd' hi.sublist hfound
  | known _ _ => exact hmember _ rfl
  | unknown _ _ => exact hmember _ rfl

/-! ### Runs on longer documents -/

/-- A document with further definitions in it, after a run on the document without them: every module
of that run comes out again under the name of the same definition, and nothing stops the run. -/
theorem declared_of_insertion (d d' : Document) (hd' : d'.FromJson) (hi : d.Insertion d')
    (settings : Settings) (previous : List Entry) (g : Generation)
    (hg : (run d settings previous).result = .ok g) :
    ∃ g', (run d' { settings with keepGoing := true } g.registry.entries).result = .ok g' ∧
      ∀ n m, (n, m) ∈ declared d g → (n, m) ∈ declared d' g' := by
  have hp' := hd'.plain
  have hp := hp'.of_sublist hi.sublist
  obtain ⟨g', hg'⟩ := exists_run hp' settings g.registry.identifiers_nodup
    g.registry.discriminants_nodup
  refine ⟨g', hg', fun n m hm => ?_⟩
  obtain ⟨x, hx, hdeclare⟩ := (mem_declared_iff hg hp.textual hp.nodup).1 hm
  obtain ⟨s, hs, hmodule⟩ := declare_eq_module.1 hdeclare
  have hs' : Synthesis.ofSchema d' (some g'.registry) n x = .ok s :=
    ofSchema_of_insertion hp' hi (run_eq_ok hg).1 (run_eq_ok hg').1 hx hs
  exact (mem_declared_iff hg' hp'.textual hp'.nodup).2
    ⟨x, hi.sublist.subset hx, declare_eq_module.2 ⟨s, hs', hmodule⟩⟩

/-- One object. -/
def single : Document :=
  ⟨[(.text "A_b", .tagged "x")]⟩

/-- The same object behind another one with the same discriminant, whose name comes to the same
identifier. -/
def double : Document :=
  ⟨(.text "A-b", .tagged "x") :: single.entries⟩

/-- How an object with a discriminant stands in a document. -/
def taggedValue (tag : String) : Value :=
  .object [("properties", .object [("_object", .object [("example", .text tag)])])]

theorem fromJson_double : double.FromJson := by
  have hvalue : Value.OfTexts (.object [("A-b", taggedValue "x"), ("A_b", taggedValue "x")]) := by
    simp [taggedValue]
  exact Document.fromJson_of_ofTexts hvalue rfl

theorem declared_of_insertion_double :
    ∃ g g', (run single {} []).result = .ok g ∧
      (run double { keepGoing := true } g.registry.entries).result = .ok g' ∧
      (declared single g).map (fun p => p.2.name) = ["A_b"] ∧
      ∀ n m, (n, m) ∈ declared single g → (n, m) ∈ declared double g' := by
  have hi : single.Insertion double := by
    refine ⟨List.sublist_cons_self _ _, fun x hx hn tag ht => Or.inl ?_⟩
    rcases List.mem_cons.1 hx with rfl | hx
    · cases ht
      exact ⟨_, List.mem_cons_self, rfl⟩
    · exact absurd (List.mem_map_of_mem hx) hn
  obtain ⟨g', hg', hsame⟩ := declared_of_insertion single double fromJson_double hi {} [] _ rfl
  exact ⟨_, g', rfl, hg', by decide, hsame⟩

end Generation

end SchemaDecl
