import SchemaDecl.Proofs.Generation.Outline

/-! How objects are told apart. A definition that gives an example of its tag property declares it as
its discriminant, so the registry of the run has a member for it, and the record of the definition has
one field for the tag, of the type of that member. Two definitions share the member only if they share
the discriminant. -/

namespace SchemaDecl

open List (Forall₂)

namespace Synthesis

/-- The type is a record that is told by a member of the registry: it has one field for the tag, which
is always there and of the type of that member. -/
def ToldBy (t : TypeExpr) (member : String) : Prop :=
  ∃ fields doc, t = .record fields ∧
    (fields.filter fun f => f.name == "_object") =
      [.mk "_object" (.reference "TypeRegistry" (some member)) true doc]

theorem ToldBy.unique {t : TypeExpr} {a b : String} (ha : ToldBy t a) (hb : ToldBy t b) : a = b := by
  obtain ⟨fields, doc, rfl, hf⟩ := ha
  obtain ⟨fields', doc', hr, hf'⟩ := hb
  cases hr
  rw [hf] at hf'
  cases hf'
  rfl

section Fields

variable {doc : Document} {registry : Option Registry} {name : Name} {required : List String}
  {P : Option Name → Definition → Synthesis → Prop} {ps : List (String × Definition)}
  {fs : List (Field × List String)}

/-- A field has the key of its property for a name. -/
theorem map_name_fields (h : Forall₂ (FieldRule doc registry name required P) ps fs) :
    fs.map (fun f => f.1.name) = ps.map Prod.fst := by
  induction h with
  | nil => rfl
  | cons hf _ ih =>
    rw [List.map_cons, List.map_cons, ih]
    cases hf <;> rfl

theorem filter_fields_eq_nil (h : Forall₂ (FieldRule doc registry name required P) ps fs)
    (hp : tagProperty ∉ ps.map Prod.fst) :
    ((fs.map Prod.fst).filter fun f => f.name == tagProperty) = [] := by
  rw [← map_name_fields h] at hp
  rw [List.filter_eq_nil_iff]
  intro f hf
  obtain ⟨x, hx, rfl⟩ := List.mem_map.1 hf
  intro hname
  exact hp (List.mem_map.2 ⟨x, hx, by simpa using hname⟩)

/-- The tag property alone gives a field with its name. -/
theorem filter_fields_eq (h : Forall₂ (FieldRule doc registry name required P) ps fs)
    (hn : (ps.map Prod.fst).Nodup) {d : Definition} (hd : (tagProperty, d) ∈ ps) :
    ∃ member fieldDoc, memberFor registry name d = .ok member ∧
      ((fs.map Prod.fst).filter fun f => f.name == tagProperty) =
        [.mk tagProperty (.reference Registry.symbol (some member)) true fieldDoc] := by
  induction h with
  | nil => cases hd
  | @cons p f ps fs hf hrest ih =>
    obtain ⟨hp, hps⟩ := List.nodup_cons.1 hn
    rw [List.map_cons]
    cases hf with
    | @member d' member fieldDoc hm hdoc =>
      have hnil := filter_fields_eq_nil hrest hp
      rw [List.filter_cons_of_pos (by exact beq_self_eq_true tagProperty), hnil]
      rcases List.mem_cons.1 hd with he | hd
      · cases he
        exact ⟨member, fieldDoc, hm, rfl⟩
      · exact absurd (List.mem_map_of_mem hd) hp
    | plain hne _ _ _ =>
      rw [List.filter_cons_of_neg (by simpa [Field.name] using hne)]
      rcases List.mem_cons.1 hd with he | hd
      · cases he
        exact absurd rfl hne
      · exact ih hps hd

end Fields

/-- The example of a tag property has its member whatever the name of the definition. -/
theorem memberFor_of_identifierFor {r : Registry} {tag identifier : String} {d : Definition}
    (ht : d.notes.sample = .text tag) (hi : r.identifierFor tag = some identifier) (name : Name) :
    memberFor (some r) name d = .ok identifier := by
  unfold memberFor
  rw [ht, Option.bind_some, show (Value.text tag).asText? = some tag from rfl, Option.bind_some, hi]

/-- The record of a definition with a tag property is told by the member for that property. -/
theorem exists_toldBy {doc : Document} {registry : Option Registry} {name : Name} {x d : Definition}
    {s : Synthesis} (hs : ofSchema doc registry name x = .ok s) (hx : x.Keyed)
    (hd : (tagProperty, d) ∈ x.properties.getD []) :
    ∃ member, memberFor registry name d = .ok member ∧ ToldBy s.type member := by
  have hobj : x.isObject = true := by
    unfold Definition.isObject
    cases hp : x.properties with
    | none =>
      rw [hp] at hd
      cases hd
    | some ps => rfl
  rw [ofSchema, if_pos hobj] at hs
  obtain ⟨fs, hfs, hs⟩ := bind_eq_ok hs
  cases hs
  have hrules := forall₂_of_ofProperties (P := fun _ _ _ => True) (fun _ _ _ _ => trivial) hfs
  obtain ⟨member, fieldDoc, hm, hf⟩ := filter_fields_eq hrules hx hd
  exact ⟨member, hm, _, fieldDoc, rfl, hf⟩

end Synthesis

namespace Generation

open Registry (Entry)
open Synthesis (ToldBy)

variable {doc : Document} {settings : Settings} {previous : List Entry} {g : Generation}

/-- A definition of the document that gives a text as an example of its tag property, with its module
in a run. -/
structure Tagged (doc : Document) (g : Generation) (n : Name) (x : Definition) (tag : String)
    (m : Module) : Prop where
  entry : (n, x) ∈ doc.entries
  tag : ∃ d, ("_object", d) ∈ x.properties.getD [] ∧ d.notes.sample = .text tag
  emitted : (n, m) ∈ declared doc g

/-- The example of a tag property is the discriminant that the definition declares. -/
theorem Tagged.declares {n : Name} {x : Definition} {tag : String} {m : Module}
    (h : Tagged doc g n x tag m) (hx : x.Keyed) : doc.Declares tag := by
  obtain ⟨d, hd, ht⟩ := h.tag
  refine ⟨_, h.entry, ?_⟩
  unfold Definition.discriminant
  rw [show x.property? tagProperty = some d from (Definition.property?_eq_some_iff hx).2 hd]
  dsimp only
  rw [ht]
  rfl

theorem exists_toldBy_of_tagged (hd : doc.FromJson) (hg : (run doc settings previous).result = .ok g)
    {n : Name} {x : Definition} {tag : String} {m : Module} (h : Tagged doc g n x tag m) :
    ∃ s member, Synthesis.ofSchema doc (some g.registry) n x = .ok s ∧
      (emitterOf settings).declaration n x s = .ok m ∧ ToldBy s.type member ∧
      g.registry.identifierFor tag = some member := by
  have hp := hd.plain
  have hx : x.Keyed := hd.keyed _ h.entry
  obtain ⟨d, hdm, ht⟩ := h.tag
  obtain ⟨s, hs, hmodule⟩ := exists_type_of_declared hg hp.textual hp.nodup h.entry h.emitted
  obtain ⟨member, hm, htold⟩ := Synthesis.exists_toldBy hs hx hdm
  obtain ⟨identifier, hi⟩ :=
    (Registry.exists_identifierFor_iff_declares hp.textual (run_eq_ok hg).1).2 (h.declares hx)
  have hmember := Synthesis.memberFor_of_identifierFor ht hi n
  rw [hm] at hmember
  cases hmember
  exact ⟨s, member, hs, hmodule, htold, hi⟩

/-- Every definition with an example of its tag property that has a module in a run is told by the one
member of the registry that goes with that example; so the members of two of them are the same exactly
if the examples are. -/
theorem told_by_discriminant (doc : Document) (hd : doc.FromJson) (settings : Settings)
    (previous : List Entry) (g : Generation) (hg : (run doc settings previous).result = .ok g) :
    (∀ n x tag m, Tagged doc g n x tag m →
      ∃ s member, Synthesis.ofSchema doc (some g.registry) n x = .ok s ∧
        (emitterOf settings).declaration n x s = .ok m ∧ ToldBy s.type member ∧
        g.registry.identifierFor tag = some member ∧
        g.registry.discriminantFor member = some tag) ∧
    ∀ n x tag m s member n' x' tag' m' s' member',
      Tagged doc g n x tag m → Synthesis.ofSchema doc (some g.registry) n x = .ok s →
      ToldBy s.type member →
      Tagged doc g n' x' tag' m' → Synthesis.ofSchema doc (some g.registry) n' x' = .ok s' →
      ToldBy s'.type member' →
      (member = member' ↔ tag = tag') := by
  have hinverse : ∀ tag member, g.registry.identifierFor tag = some member →
      g.registry.discriminantFor member = some tag := by
    intro tag member h
    rw [Registry.discriminantFor_eq_some_iff, ← Registry.identifierFor_eq_some_iff]
    exact h
  -- the member in the type is the one that the registry has
  have hmember : ∀ n x tag m s member, Tagged doc g n x tag m →
      Synthesis.ofSchema doc (some g.registry) n x = .ok s → ToldBy s.type member →
      g.registry.identifierFor tag = some member := by
    intro n x tag m s member h hs htold
    obtain ⟨s', member', hs', -, htold', hi⟩ := exists_toldBy_of_tagged hd hg h
    rw [hs] at hs'
    cases hs'
    rw [htold.unique htold']
    exact hi
  refine ⟨fun n x tag m h => ?_, fun n x tag m s member n' x' tag' m' s' member' h hs ht h' hs' ht' => ?_⟩
  · obtain ⟨s, member, hs, hmodule, htold, hi⟩ := exists_toldBy_of_tagged hd hg h
    exact ⟨s, member, hs, hmodule, htold, hi, hinverse tag member hi⟩
  · have hi := hmember n x tag m s member h hs ht
    have hi' := hmember n' x' tag' m' s' member' h' hs' ht'
    constructor
    · rintro rfl
      have hboth := (hinverse tag member hi).symm.trans (hinverse tag' member hi')
      exact Option.some.inj hboth
    · rintro rfl
      exact Option.some.inj (hi.symm.trans hi')

/-- Three objects whose names come to one identifier, the first and the last with one discriminant. -/
def crowd : Document :=
  ⟨[(.text "A-b", .tagged "x"), (.text "A_b", .tagged "y"), (.text "A b", .tagged "x")]⟩

theorem fromJson_crowd : crowd.FromJson := by
  have hvalue : Value.OfTexts (.object
      [("A-b", taggedValue "x"), ("A_b", taggedValue "y"), ("A b", taggedValue "x")]) := by
    simp [taggedValue]
  exact Document.fromJson_of_ofTexts hvalue rfl

/-- In the crowd a definition has a module, and it is told by a member. -/
def ToldInCrowd (g : Generation) (n tag member : String) : Prop :=
  ∃ m s, Tagged crowd g (.text n) (.tagged tag) tag m ∧
    Synthesis.ofSchema crowd (some g.registry) (.text n) (.tagged tag) = .ok s ∧ ToldBy s.type member

/-- The identifier is kept for the second object, so the others have to make do with a number. -/
theorem told_by_discriminant_crowd :
    ∃ g first second third, (run crowd {} [⟨"A_b", "y"⟩]).result = .ok g ∧
      ToldInCrowd g "A-b" "x" first ∧ ToldInCrowd g "A_b" "y" second ∧ ToldInCrowd g "A b" "x" third ∧
      g.registry.identifierFor "x" = some "A_b_2" ∧ first = third ∧ first ≠ second := by
  have hrun : (run crowd {} [⟨"A_b", "y"⟩]).result.toOption.map (fun g =>
      g.registry.identifierFor "x") = some (some "A_b_2") := by
    decide +kernel
  obtain ⟨g, hsome, hi⟩ := Option.map_eq_some_iff.1 hrun
  have hg := eq_ok_of_toOption hsome
  obtain ⟨hall, hiff⟩ := told_by_discriminant crowd fromJson_crowd {} _ g hg
  have hp := fromJson_crowd.plain
  have htold : ∀ n tag, (.text n, .tagged tag) ∈ crowd.entries →
      ∃ member, ToldInCrowd g n tag member := by
    intro n tag hx
    obtain ⟨m, hm⟩ := exists_declared hg hp.textual hp.nodup rfl (List.mem_map_of_mem hx)
    have htagged : Tagged crowd g (.text n) (.tagged tag) tag m :=
      ⟨hx, ⟨_, List.mem_cons_self, rfl⟩, hm⟩
    obtain ⟨s, member, hs, -, ht, -⟩ := hall _ _ tag m htagged
    exact ⟨member, m, s, htagged, hs, ht⟩
  obtain ⟨first, h₁⟩ := htold "A-b" "x" (by simp [crowd])
  obtain ⟨second, h₂⟩ := htold "A_b" "y" (by simp [crowd])
  obtain ⟨third, h₃⟩ := htold "A b" "x" (by simp [crowd])
  refine ⟨g, first, second, third, hg, h₁, h₂, h₃, hi, ?_, ?_⟩
  · obtain ⟨m₁, s₁, ht₁, hs₁, hb₁⟩ := h₁
    obtain ⟨m₃, s₃, ht₃, hs₃, hb₃⟩ := h₃
    exact (hiff _ _ "x" m₁ s₁ first _ _ "x" m₃ s₃ third ht₁ hs₁ hb₁ ht₃ hs₃ hb₃).2 rfl
  · obtain ⟨m₁, s₁, ht₁, hs₁, hb₁⟩ := h₁
    obtain ⟨m₂, s₂, ht₂, hs₂, hb₂⟩ := h₂
    intro he
    have hsame := (hiff _ _ "x" m₁ s₁ first _ _ "y" m₂ s₂ second ht₁ hs₁ hb₁ ht₂ hs₂ hb₂).1 he
    exact absurd hsame (by decide)

end Generation

end SchemaDecl
