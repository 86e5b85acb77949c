import SchemaDecl.Proofs.Generation.Insertion
import SchemaDecl.Proofs.Registry.Distinct

/-! Documents with the same definitions in another order. References are looked up by name, so the
order of the definitions matters to the registry alone; where no discriminant and no identifier in it
collides, every definition has the same outcome and only the order of the outcomes is another one. -/

namespace SchemaDecl

namespace Document

variable {d d' : Document}

theorem names_perm (h : d.entries.Perm d'.entries) : d.names.Perm d'.names :=
  h.map Prod.fst

theorem Plain.perm (hd : d.Plain) (h : d.entries.Perm d'.entries) : d'.Plain where
  textual e he := hd.textual e (h.mem_iff.2 he)
  nodup := (names_perm h).nodup_iff.1 hd.nodup
  definitions e he := hd.definitions e (h.mem_iff.2 he)

/-- A name finds the same definition in either order. -/
theorem getText?_of_perm (hd : d.Plain) (h : d.entries.Perm d'.entries) (name : String) :
    d.getText? name = d'.getText? name := by
  refine Option.ext fun x => ?_
  rw [getText?_eq_some_iff hd.nodup, getText?_eq_some_iff (hd.perm h).nodup]
  exact h.mem_iff

theorem sentinelKind_of_perm (hd : d.Plain) (h : d.entries.Perm d'.entries) (name : String) :
    d.sentinelKind (.text name) = d'.sentinelKind (.text name) := by
  unfold sentinelKind discriminantOf
  rw [get?_text hd.textual, get?_text (hd.perm h).textual, getText?_of_perm hd h]

end Document

namespace Synthesis

variable {d d' : Document}

theorem ofRef_of_perm (hd : d.Plain) (h : d.entries.Perm d'.entries) (ref : String)
    (owner : Option Name) : ofRef d ref owner = ofRef d' ref owner := by
  simp only [ofRef, Document.resolve, Document.getText?_of_perm hd h,
    Document.sentinelKind_of_perm hd h]

/-- Neither the order of the definitions nor that of the entries of the registry shows in a type. -/
theorem ofSchema_of_perm (hd : d.Plain) (h : d.entries.Perm d'.entries) {r r' : Registry}
    (hr : r.entries.Perm r'.entries) (name : Name) (x : Definition) :
    ofSchema d (some r) name x = ofSchema d' (some r') name x := by
  refine ofSchema_congr fun leaf _ => ?_
  cases leaf with
  | reference ref => exact ofRef_of_perm hd h ref
  | member tag =>
    cases tag with
    | none => rfl
    | some tag => exact Registry.identifierFor_of_perm hr tag

end Synthesis

namespace Generation

variable {d d' : Document} {r r' : Registry} {e : Emitter}

theorem declare_of_perm (hd : d.Plain) (h : d.entries.Perm d'.entries)
    (hr : r.entries.Perm r'.entries) (name : Name) (x : Definition) :
    declare d r e name x = declare d' r' e name x := by
  unfold declare
  rw [Synthesis.ofSchema_of_perm hd h hr]

theorem moduleOf?_of_perm (hd : d.Plain) (h : d.entries.Perm d'.entries)
    (hr : r.entries.Perm r'.entries) : moduleOf? d r e = moduleOf? d' r' e := by
  funext x
  unfold moduleOf?
  rw [declare_of_perm hd h hr]

theorem errorOf?_of_perm (hd : d.Plain) (h : d.entries.Perm d'.entries)
    (hr : r.entries.Perm r'.entries) : errorOf? d r e = errorOf? d' r' e := by
  funext x
  unfold errorOf?
  rw [declare_of_perm hd h hr]

/-- First runs on a document whose definitions are told apart by discriminants and identifiers, and on
one with the same definitions in another order: the registries hold the same entries, the same
definitions fail with the same errors, and all others have the same modules. -/
theorem same_outcome_of_perm (d d' : Document) (hd : d.FromJson) (h : d.entries.Perm d'.entries)
    (hi : d.Distinct) (settings : Settings) :
    ∃ g g', (run d { settings with keepGoing := true } []).result = .ok g ∧
      (run d' { settings with keepGoing := true } []).result = .ok g' ∧
      g.registry.entries.Perm g'.registry.entries ∧ g.failures.Perm g'.failures ∧
      (declared d g).Perm (declared d' g') := by
  have hp := hd.plain
  have hp' := hp.perm h
  obtain ⟨g, hg⟩ : ∃ g, (run d { settings with keepGoing := true } []).result = .ok g :=
    exists_run hp settings .nil .nil
  obtain ⟨g', hg'⟩ : ∃ g', (run d' { settings with keepGoing := true } []).result = .ok g' :=
    exists_run hp' settings .nil .nil
  have hr : g.registry.entries.Perm g'.registry.entries := by
    have hb := (run_eq_ok hg).1
    have hb' := (run_eq_ok hg').1
    rw [Registry.build_of_distinct hp.textual hi] at hb
    rw [Registry.build_of_distinct hp'.textual (hi.perm h)] at hb'
    rw [← Except.ok.inj hb, ← Except.ok.inj hb']
    exact Document.claimed_perm h
  refine ⟨g, g', hg, hg', hr, ?_, ?_⟩
  · rw [(outcomes_of_run hg).failures_eq, (outcomes_of_run hg').failures_eq, errorOf?_of_perm hp h hr]
    exact h.filterMap _
  · rw [declared_eq hg hp.textual hp.nodup, declared_eq hg' hp'.textual hp'.nodup,
      moduleOf?_of_perm hp h hr]
    exact h.filterMap _

/-- Two objects with discriminants, a list of the first ones and a list of nothing. -/
def fleet : Document :=
  ⟨[(.text "Car", .tagged "/car"), (.text "Bus", .tagged "/bus"),
    (.text "Cars", { Definition.blank with
      type := some "array", items := some { Definition.blank with ref := some "Car" } }),
    (.text "Void", { Definition.blank with type := some "array" })]⟩

theorem fromJson_fleet : fleet.FromJson := by
  have hvalue : Value.OfTexts (.object
      [("Car", taggedValue "/car"), ("Bus", taggedValue "/bus"),
        ("Cars", .object [("type", .text "array"), ("items", .object [("$ref", .text "Car")])]),
        ("Void", .object [("type", .text "array")])]) := by
    simp [taggedValue]
  exact Document.fromJson_of_ofTexts hvalue rfl

theorem same_outcome_of_perm_fleet :
    fleet.Distinct ∧
      ∃ g g', (run fleet { keepGoing := true } []).result = .ok g ∧
        (run ⟨fleet.entries.reverse⟩ { keepGoing := true } []).result = .ok g' ∧
        g.registry.entries = [⟨"Car", "/car"⟩, ⟨"Bus", "/bus"⟩] ∧
        g.registry.entries.Perm g'.registry.entries ∧ g.failures.Perm g'.failures ∧
        (declared fleet g).Perm (declared ⟨fleet.entries.reverse⟩ g') := by
  have hclaimed : fleet.claimed = [⟨"Car", "/car"⟩, ⟨"Bus", "/bus"⟩] := by decide
  have hi : fleet.Distinct := ⟨by rw [hclaimed]; decide, by rw [hclaimed]; decide⟩
  obtain ⟨g, g', hg, hg', hr, hf, hd⟩ := same_outcome_of_perm fleet ⟨fleet.entries.reverse⟩
    fromJson_fleet (List.reverse_perm _).symm hi {}
  refine ⟨hi, g, g', hg, hg', ?_, hr, hf, hd⟩
  have hb := (run_eq_ok hg).1
  rw [Registry.build_of_distinct fromJson_fleet.plain.textual hi] at hb
  rw [← Except.ok.inj hb]
  exact hclaimed

end Generation

end SchemaDecl
