import SchemaDecl.Proofs.Generation.Outline

/-! The members of the enumeration that occur in the types of a run. Each belongs to a tag property. If
some definition of the document declares the example of that property as its discriminant, the member
is the one that the registry has for it; otherwise it is made of the name of the definition that the
property lies in, whether the registry knows that identifier or not. -/

namespace SchemaDecl

open List (Forall₂)
open Definition (Leaf)

/-! ### Registries that are there

Whatever the names of a document are, a registry that was built has the discriminants that definitions
declare. -/

namespace Registry

open Document

variable {d : Document} {previous : List Entry} {r : Registry}

theorem mem_discriminants_of_claims {found cl : List Entry} {entries : List (Name × Definition)}
    (h : (claims found entries).result = .ok cl) (tag : String) :
    tag ∈ cl.map Entry.discriminant ↔ tag ∈ found.map Entry.discriminant ∨ tag ∈ tagsOf entries := by
  induction entries generalizing found with
  | nil =>
    cases h
    simp [tagsOf]
  | cons e rest ih =>
    rcases claims_cons found e rest with ⟨hclaimed, hr⟩ | ⟨t, ht, -, ⟨s, -, hr⟩ | ⟨v, -, hr⟩⟩
    · rw [hr] at h
      rw [ih h]
      cases he : e.2.discriminant with
      | none => simp [tagsOf, he]
      | some t =>
        have ht : t ∈ found.map Entry.discriminant := hclaimed t he
        rw [show tagsOf (e :: rest) = t :: tagsOf rest by simp [tagsOf, he], List.mem_cons]
        constructor
        · exact Or.imp_right Or.inr
        · rintro (hf | rfl | hrest)
          exacts [Or.inl hf, Or.inl ht, Or.inr hrest]
    · rw [hr] at h
      rw [ih h, show tagsOf (e :: rest) = t :: tagsOf rest by simp [tagsOf, ht], List.map_append,
        List.mem_append, List.map_singleton, List.mem_singleton, List.mem_cons, or_assoc]
    · rw [hr] at h
      cases h

/-- Joining claims with earlier entries neither adds nor drops a discriminant. -/
theorem mem_discriminants_combine (cl previous : List Entry) (tag : String) :
    tag ∈ (combine cl previous).map Entry.discriminant ↔ tag ∈ cl.map Entry.discriminant := by
  have hkept : ∀ t, t ∈ (kept cl previous).map Entry.discriminant → t ∈ cl.map Entry.discriminant := by
    intro t ht
    obtain ⟨e, he, rfl⟩ := List.mem_map.1 ht
    exact isSome_claimOf.1 (List.mem_filter.1 he).2
  have ha := additions_spec ((kept cl previous).map Entry.identifier)
    ((kept cl previous).map Entry.discriminant) cl
  simp only [combine, List.map_append, List.mem_append, ha.discriminants_eq, List.mem_filter]
  constructor
  · rintro (h | ⟨h, -⟩)
    exacts [hkept tag h, h]
  · intro h
    by_cases hk : tag ∈ (kept cl previous).map Entry.discriminant
    · exact Or.inl hk
    · exact Or.inr ⟨h, by simpa using hk⟩

theorem exists_identifierFor_iff_of_build (h : (build d previous).result = .ok r) (tag : String) :
    (∃ identifier, r.identifierFor tag = some identifier) ↔ d.Declares tag := by
  rw [build, Run.result_bind] at h
  obtain ⟨cl, hcl, h⟩ := bind_eq_ok h
  have hentries : r.entries = combine cl previous := by
    cases he : ofEntries (combine cl previous) with
    | error e => simp only [Run.result_bind, Except.bind, he] at h; cases h
    | ok r' =>
      simp only [Run.result_bind, Except.bind, he] at h
      cases h
      exact ofEntries_entries he
  rw [exists_identifierFor_iff, hentries, mem_discriminants_combine, mem_discriminants_of_claims hcl,
    ← mem_discriminants, discriminants, mem_firstSeen]
  simp

theorem identifierFor_eq_none_iff_of_build (h : (build d previous).result = .ok r) (tag : String) :
    r.identifierFor tag = none ↔ ¬d.Declares tag := by
  rw [← exists_identifierFor_iff_of_build h tag, ← Option.isSome_iff_exists,
    Option.not_isSome_iff_eq_none]

end Registry

/-! ### Types and the names around them -/

namespace Synthesis

variable {doc : Document} {r : Registry}

/-- How a leaf shows in the type of a definition with the name `owner`. -/
inductive ShowsIn (r : Registry) (owner : String) : Leaf → String × Option String → Prop
  | reference {ref symbol : String} : ShowsIn r owner (.reference ref) (symbol, none)
  | known {tag m : String} (h : r.identifierFor tag = some m) :
      ShowsIn r owner (.member (some tag)) (Registry.symbol, some m)
  | unknown {tag : Option String} (h : tag.bind r.identifierFor = none) :
      ShowsIn r owner (.member tag) (Registry.symbol, some (Identifier.ofName owner))

theorem showsIn_of_memberFor {owner m : String} {d : Definition}
    (h : memberFor (some r) (.text owner) d = .ok m) :
    ShowsIn r owner (.member d.notes.sample.asText?) (Registry.symbol, some m) := by
  unfold memberFor at h
  split at h
  next identifier hi =>
    cases h
    rw [Option.bind_some] at hi
    obtain ⟨tag, ht, hm⟩ := Option.bind_eq_some_iff.1 hi
    rw [ht]
    exact .known hm
  next hi =>
    cases h
    exact .unknown hi

/-- The leaves of a definition show in its type under the name of its owner. -/
def ShowsUnder (r : Registry) (owner : Option Name) (d : Definition) (s : Synthesis) : Prop :=
  ∀ name, enclosing owner = .text name → Forall₂ (ShowsIn r name) d.leaves s.type.links

theorem links_ofFields {name : String} {required : List String} {ps : List (String × Definition)}
    {fs : List (Field × List String)}
    (h : Forall₂ (FieldRule doc (some r) (.text name) required (ShowsUnder r)) ps fs) :
    Forall₂ (ShowsIn r name) (Definition.propertyLeaves ps) (ofFields fs).type.links := by
  rw [Definition.propertyLeaves_eq_flatten, ofFields, TypeExpr.links, TypeExpr.fieldLinks_eq_flatten,
    List.map_map]
  refine List.rel_flatten (List.forall₂_map_left_iff.2 (List.forall₂_map_right_iff.2 (h.imp ?_)))
  rintro _ _ (⟨hm, -⟩ | ⟨hp, -, hs, -⟩)
  · exact .cons (showsIn_of_memberFor hm) .nil
  · rw [Definition.leavesOfProperty, if_neg (by simpa using hp)]
    exact hs name (enclosing_text name)

theorem closed_showsUnder : Closed doc (some r) (ShowsUnder r) where
  reference hr _ name _ := by
    rw [Definition.leaves_eq, hr]
    exact .cons .reference .nil
  literals hr he _ name _ := by
    rw [Definition.leaves_eq, hr, he]
    exact .nil
  union hr he ho _ h name hn := by
    rw [Definition.leaves_eq, hr, he, ho, TypeExpr.links, TypeExpr.memberLinks_eq_flatten, List.map_map]
    dsimp only
    rw [Definition.branchLeaves_eq_flatten]
    exact List.rel_flatten (List.forall₂_map_left_iff.2 (List.forall₂_map_right_iff.2
      (h.imp fun _ _ hs => hs.2 name hn)))
  sequence hr he ho ht hi _ h name hn := by
    rw [Definition.leaves_eq, hr, he, ho, hi, if_pos (by simp [ht])]
    exact h name hn
  record hr he ho ht _ h name hn := by
    rw [hn] at h
    rw [Definition.leaves_eq, hr, he, ho, if_neg (by simpa using ht)]
    exact links_ofFields h
  primitive {_ d _} hr he ho ht hobj _ name _ := by
    have hp : d.properties = none := by
      simp only [Definition.isObject, Bool.or_eq_true, not_or] at hobj
      simpa using hobj.1
    rw [Definition.leaves_eq, hr, he, ho, if_neg (by simpa using ht), Definition.objectLeaves, hp]
    exact .nil

theorem links_ofSchema {name : String} {d : Definition} {s : Synthesis}
    (h : ofSchema doc (some r) (.text name) d = .ok s) :
    Forall₂ (ShowsIn r name) d.schemaLeaves s.type.links := by
  rw [Definition.schemaLeaves]
  rcases closed_showsUnder.of_ofSchema h with ⟨ho, fs, rfl, hfs⟩ | ⟨ho, hs⟩
  · rw [if_pos ho]
    exact links_ofFields hfs
  · rw [if_neg ho]
    exact hs name (enclosing_text name)

end Synthesis

namespace Generation

open Registry (Entry)

variable {doc : Document} {settings : Settings} {previous : List Entry} {g : Generation}

/-- Which members belong to the leaves of a definition with the name `owner`. -/
inductive Membership (doc : Document) (r : Registry) (owner : String) :
    Leaf → String × Option String → Prop
  | reference {ref symbol : String} : Membership doc r owner (.reference ref) (symbol, none)
  | declared {tag m : String} (h : doc.Declares tag) (hi : r.identifierFor tag = some m)
      (hd : r.discriminantFor m = some tag) :
      Membership doc r owner (.member (some tag)) ("TypeRegistry", some m)
  | fallback {tag : Option String} (h : ∀ t, tag = some t → ¬doc.Declares t) :
      Membership doc r owner (.member tag) ("TypeRegistry", some (Identifier.ofName owner))

theorem membership_of_showsIn (h : (Registry.build doc previous).result = .ok g.registry)
    {owner : String} {leaf : Leaf} {link : String × Option String}
    (hs : Synthesis.ShowsIn g.registry owner leaf link) : Membership doc g.registry owner leaf link := by
  cases hs with
  | reference => exact .reference
  | @known tag m hm =>
    refine .declared ((Registry.exists_identifierFor_iff_of_build h tag).1 ⟨m, hm⟩) hm ?_
    rw [Registry.discriminantFor_eq_some_iff, ← Registry.identifierFor_eq_some_iff]
    exact hm
  | unknown hnone =>
    refine .fallback fun t ht => ?_
    rw [ht, Option.bind_some] at hnone
    exact (Registry.identifierFor_eq_none_iff_of_build h t).1 hnone

/-- A definition that gets a type in a run that returns has a module, and its name is a text. -/
theorem exists_module_of_ofSchema (hg : (run doc settings previous).result = .ok g) {n : Name}
    {x : Definition} (hx : (n, x) ∈ doc.entries) {s : Synthesis}
    (hs : Synthesis.ofSchema doc (some g.registry) n x = .ok s) :
    ∃ owner m, n = .text owner ∧ m ∈ g.declarations ∧
      (emitterOf settings).declaration n x s = .ok m := by
  rcases (outcomes_of_run hg).module_or_failure hx with ⟨m, hm, hd⟩ | ⟨err, -, hd⟩
  · obtain ⟨s', hs', hmodule⟩ := declare_eq_module.1 hd
    rw [hs] at hs'
    cases hs'
    cases n with
    | text owner => exact ⟨owner, m, rfl, hm, hmodule⟩
    | other v => cases hmodule
  · rw [declare, hs] at hd
    obtain ⟨m, -, hm⟩ := map_eq_ok hd
    cases hm

/-- In a run that returns, every definition that gets a type is written under its name, and what occurs
in the type belongs to the leaves of the definition one by one: the member for a discriminant that some
definition declares, else an identifier made of the name. -/
theorem membership_of_run (hg : (run doc settings previous).result = .ok g) (n : Name)
    (x : Definition) (hx : (n, x) ∈ doc.entries) (s : Synthesis)
    (hs : Synthesis.ofSchema doc (some g.registry) n x = .ok s) :
    ∃ owner m, n = .text owner ∧ m ∈ g.declarations ∧
      (emitterOf settings).declaration n x s = .ok m ∧
      Forall₂ (Membership doc g.registry owner) x.schemaLeaves s.type.links := by
  obtain ⟨owner, m, rfl, hm, hmodule⟩ := exists_module_of_ofSchema hg hx hs
  exact ⟨owner, m, rfl, hm, hmodule,
    (Synthesis.links_ofSchema hs).imp fun _ _ => membership_of_showsIn (run_eq_ok hg).1⟩

/-- An object whose discriminant no definition declares, inside the object "Foo", which has one of its
own, and inside the object "Baz", which has none. -/
def inline : Definition :=
  .tagged "bar"

def fooWithInline : Definition :=
  { Definition.blank with
    properties := some [
      (tagProperty, { Definition.blank with notes := ⟨none, .text "foo", none, .null⟩ }),
      ("child", inline)] }

def nested : Document :=
  ⟨[(.text "Foo", fooWithInline),
    (.text "Baz", { Definition.blank with properties := some [("child", inline)] })]⟩

theorem membership_of_run_nested :
    ∃ g s m, (run nested {} []).result = .ok g ∧ m ∈ g.declarations ∧
      Synthesis.ofSchema nested (some g.registry) (.text "Foo") fooWithInline = .ok s ∧
      (emitterOf {}).declaration (.text "Foo") fooWithInline s = .ok m ∧
      Forall₂ (Membership nested g.registry "Foo") [.member (some "foo"), .member (some "bar")]
        s.type.links := by
  have h := fun g (hg : (run nested {} []).result = .ok g) =>
    membership_of_run hg (.text "Foo") fooWithInline List.mem_cons_self
  obtain ⟨owner, m, howner, hm, hmodule, hlinks⟩ := h _ rfl _ rfl
  cases howner
  exact ⟨_, _, m, rfl, hm, rfl, hmodule, hlinks⟩

/-- The registry has no identifier for the inner objects: in one definition they are told by the member
of another discriminant, and in the other by an identifier that is no member at all. -/
theorem nested_members_not_registered :
    ∃ g foo baz, (run nested {} []).result = .ok g ∧
      Synthesis.ofSchema nested (some g.registry) (.text "Foo") fooWithInline = .ok foo ∧
      foo.type.links = [("TypeRegistry", some "Foo"), ("TypeRegistry", some "Foo")] ∧
      g.registry.discriminantFor "Foo" = some "foo" ∧
      Synthesis.ofSchema nested (some g.registry) (.text "Baz")
        { Definition.blank with properties := some [("child", inline)] } = .ok baz ∧
      baz.type.links = [("TypeRegistry", some "Baz")] ∧ g.registry.discriminantFor "Baz" = none ∧
      g.registry.identifierFor "bar" = none :=
  ⟨_, _, _, rfl, rfl, by decide, by decide, rfl, by decide, by decide, by decide⟩

end Generation

end SchemaDecl
