import SchemaDecl.Proofs.Document.Plain
import SchemaDecl.Proofs.Synthesis.Dependencies
import SchemaDecl.Proofs.Synthesis.Documentation

/-! Which definitions are looked at on the way to a type. One rule decides about a definition, and what
this rule looks at is visited next, in the order in which it is declared. A definition has a type if
all that are visited are well formed, and if not, the first of the others says why. -/

namespace SchemaDecl

/-- The rules by which definitions get types. -/
inductive Rule where
  | reference
  | literals
  | alternatives
  | array
  | object
  | scalar
  deriving DecidableEq, Repr

namespace Definition

/-- The rule for a definition inside another one: the first part that it has decides. -/
def rule (d : Definition) : Rule :=
  if d.ref.isSome then .reference
  else if d.enum.isSome then .literals
  else if d.oneOf.isSome then .alternatives
  else if d.type = some "array" then .array
  else if d.isObject then .object
  else .scalar

/-- The rule at the top level, where being an object comes before all. -/
def schemaRule (d : Definition) : Rule :=
  if d.isObject then .object else d.rule

/-- The definitions that a rule looks at. -/
def parts (d : Definition) : Rule → List Definition
  | .alternatives => d.oneOf.getD []
  | .array => d.items.toList
  | .object => ((d.properties.getD []).filter fun p => p.1 != tagProperty).map fun p => p.2
  | _ => []

theorem sizeOf_part_lt {d c : Definition} {r : Rule} (h : c ∈ d.parts r) : sizeOf c < sizeOf d := by
  cases r with
  | alternatives =>
    cases ho : d.oneOf with
    | none => simp [parts, ho] at h
    | some bs => exact sizeOf_branch_lt ho (by simpa [parts, ho] using h)
  | array => exact sizeOf_items_lt (by simpa [parts] using h)
  | object =>
    obtain ⟨p, hp, rfl⟩ := List.mem_map.1 h
    exact sizeOf_property_lt (List.mem_of_mem_filter hp)
  | _ => cases h

/-- The definitions that are visited from one under a rule, each with its own, a definition before its
parts. -/
def visits (r : Rule) (d : Definition) : List (Rule × Definition) :=
  (r, d) :: (d.parts r).attach.flatMap fun c => visits c.1.rule c.1
termination_by sizeOf d
decreasing_by exact sizeOf_part_lt c.2

theorem visits_eq (r : Rule) (d : Definition) :
    d.visits r = (r, d) :: (d.parts r).flatMap fun c => c.visits c.rule := by
  rw [visits]
  simp only [List.flatMap_subtype, List.unattach_attach]

end Definition

namespace Synthesis

open Definition (visits visits_eq parts)

variable {doc : Document} {registry : Option Registry}

/-! ### Well-formed definitions -/

def scalarTypes : List (Option String) :=
  [some "integer", some "string", some "boolean"]

/-- What a rule asks of a definition. -/
def WellFormed (doc : Document) : Rule × Definition → Prop
  | (.reference, d) => ∀ ref ∈ d.ref, .text (Document.refTarget ref) ∈ doc.names
  | (.literals, d) => d.enum ≠ some []
  | (.alternatives, d) => d.oneOf ≠ some []
  | (.array, d) => d.items ≠ none
  | (.object, _) => True
  | (.scalar, d) => d.type ∈ scalarTypes

/-- What is wrong with a definition that belongs to `owner`. -/
inductive Flawed (doc : Document) (owner : Name) : Rule × Definition → SchemaError → Prop
  | unresolved {d : Definition} {ref : String} (hr : d.ref = some ref)
      (h : .text (Document.refTarget ref) ∉ doc.names) :
      Flawed doc owner (.reference, d) (.unresolved (Document.refTarget ref) (some owner))
  | emptyEnum {d : Definition} (h : d.enum = some []) :
      Flawed doc owner (.literals, d) (.emptyEnum (some owner))
  | emptyOneOf {d : Definition} (h : d.oneOf = some []) :
      Flawed doc owner (.alternatives, d) (.emptyOneOf (some owner))
  | arrayWithoutItems {d : Definition} (h : d.items = none) :
      Flawed doc owner (.array, d) (.arrayWithoutItems (some owner))
  | unsupported {d : Definition} (h : d.type ∉ scalarTypes) :
      Flawed doc owner (.scalar, d) (.unsupported d.type (some owner))

/-- The flaw of a definition, if it has one. -/
def flaw? (doc : Document) (owner : Name) : Rule × Definition → Option SchemaError
  | (.reference, d) =>
    (d.ref.filter fun ref => (doc.getText? (Document.refTarget ref)).isNone).map fun ref =>
      .unresolved (Document.refTarget ref) (some owner)
  | (.literals, d) => if d.enum = some [] then some (.emptyEnum (some owner)) else none
  | (.alternatives, d) =>
    if (d.oneOf.map List.isEmpty).getD false then some (.emptyOneOf (some owner)) else none
  | (.array, d) => if d.items.isNone then some (.arrayWithoutItems (some owner)) else none
  | (.object, _) => none
  | (.scalar, d) => if d.type ∈ scalarTypes then none else some (.unsupported d.type (some owner))

theorem isNone_getText?_iff {name : String} :
    (doc.getText? name).isNone = true ↔ .text name ∉ doc.names := by
  rw [Option.isNone_iff_eq_none, Document.getText?, Option.map_eq_none_iff, List.find?_eq_none]
  simp only [Name.isText_iff, Document.names, List.mem_map]
  constructor
  · rintro h ⟨e, he, hn⟩
    exact h e he hn
  · intro h e he hn
    exact h ⟨e, he, hn⟩

theorem isEmpty_getD_iff {bs : Option (List Definition)} :
    (bs.map List.isEmpty).getD false = true ↔ bs = some [] := by
  cases bs with
  | none => simp
  | some bs => simp

theorem flaw?_eq_some_iff {owner : Name} {v : Rule × Definition} {e : SchemaError} :
    flaw? doc owner v = some e ↔ Flawed doc owner v e := by
  obtain ⟨r, d⟩ := v
  constructor
  · intro h
    cases r with
    | reference =>
      obtain ⟨ref, hr, rfl⟩ := Option.map_eq_some_iff.1 h
      obtain ⟨hr, hn⟩ := Option.filter_eq_some_iff.1 hr
      exact .unresolved hr (isNone_getText?_iff.1 hn)
    | literals =>
      obtain ⟨hempty, ⟨⟩⟩ := Option.ite_none_right_eq_some.1 h
      exact .emptyEnum hempty
    | alternatives =>
      obtain ⟨hempty, ⟨⟩⟩ := Option.ite_none_right_eq_some.1 h
      exact .emptyOneOf (isEmpty_getD_iff.1 hempty)
    | array =>
      obtain ⟨hempty, ⟨⟩⟩ := Option.ite_none_right_eq_some.1 h
      exact .arrayWithoutItems (Option.isNone_iff_eq_none.1 hempty)
    | object => cases h
    | scalar =>
      obtain ⟨htype, ⟨⟩⟩ := Option.ite_none_left_eq_some.1 h
      exact .unsupported htype
  · intro h
    cases h with
    | unresolved hr h => simp [flaw?, hr, Option.filter, isNone_getText?_iff.2 h]
    | emptyEnum h => exact if_pos h
    | emptyOneOf h => exact if_pos (isEmpty_getD_iff.2 h)
    | arrayWithoutItems h => exact if_pos (Option.isNone_iff_eq_none.2 h)
    | unsupported h => exact if_neg h

theorem flaw?_eq_none_iff {owner : Name} {v : Rule × Definition} :
    flaw? doc owner v = none ↔ WellFormed doc v := by
  obtain ⟨r, d⟩ := v
  cases r with
  | reference =>
    simp only [flaw?, WellFormed, Option.map_eq_none_iff, Option.filter_eq_none_iff,
      isNone_getText?_iff, Classical.not_not]
    rfl
  | literals => simp [flaw?, WellFormed]
  | alternatives => simp only [flaw?, WellFormed, isEmpty_getD_iff, ite_eq_right_iff, reduceCtorEq, imp_false]
  | array => simp [flaw?, WellFormed]
  | object => simp [flaw?, WellFormed]
  | scalar => simp [flaw?, WellFormed]

/-! ### The first flaw -/

/-- What comes of visits: nothing, or the first flaw. -/
def verdict (doc : Document) (owner : Name) (vs : List (Rule × Definition)) :
    Except SynthesisFault Unit :=
  match vs.findSome? (flaw? doc owner) with
  | none => .ok ()
  | some e => .error (.schema e)

section Verdict

variable {owner : Name}

theorem verdict_append (vs ws : List (Rule × Definition)) :
    verdict doc owner (vs ++ ws) = verdict doc owner vs >>= fun _ => verdict doc owner ws := by
  unfold verdict
  rw [List.findSome?_append]
  cases vs.findSome? (flaw? doc owner) <;> rfl

theorem verdict_cons_of_flawed {v : Rule × Definition} {e : SchemaError} (h : Flawed doc owner v e)
    (vs : List (Rule × Definition)) : verdict doc owner (v :: vs) = .error (.schema e) := by
  rw [verdict, List.findSome?_cons, flaw?_eq_some_iff.2 h]

theorem verdict_cons_of_wellFormed {v : Rule × Definition} (h : WellFormed doc v)
    (vs : List (Rule × Definition)) : verdict doc owner (v :: vs) = verdict doc owner vs := by
  rw [verdict, List.findSome?_cons, flaw?_eq_none_iff.2 h, verdict]

theorem verdict_eq_ok_iff {vs : List (Rule × Definition)} :
    verdict doc owner vs = .ok () ↔ ∀ v ∈ vs, WellFormed doc v := by
  have h : verdict doc owner vs = .ok () ↔ vs.findSome? (flaw? doc owner) = none := by
    unfold verdict
    cases vs.findSome? (flaw? doc owner) <;> simp
  simp only [h, List.findSome?_eq_none_iff, flaw?_eq_none_iff]

theorem verdict_eq_error_iff {vs : List (Rule × Definition)} {f : SynthesisFault} :
    verdict doc owner vs = .error f ↔
      ∃ before v after e, vs = before ++ v :: after ∧ (∀ u ∈ before, WellFormed doc u) ∧
        Flawed doc owner v e ∧ f = .schema e := by
  have h : verdict doc owner vs = .error f ↔
      ∃ e, vs.findSome? (flaw? doc owner) = some e ∧ f = .schema e := by
    unfold verdict
    cases vs.findSome? (flaw? doc owner) with
    | none => simp
    | some e => simp [eq_comm]
  simp only [h, List.findSome?_eq_some_iff, flaw?_eq_none_iff, flaw?_eq_some_iff]
  constructor
  · rintro ⟨e, ⟨before, v, after, hvs, he, hbefore⟩, hf⟩
    exact ⟨before, v, after, e, hvs, hbefore, he, hf⟩
  · rintro ⟨before, v, after, e, hvs, hbefore, he, hf⟩
    exact ⟨e, ⟨before, v, after, hvs, he, hbefore⟩, hf⟩

end Verdict

/-! ### Definitions -/

/-- A result without its value. -/
def outcome {α : Type} (x : Except SynthesisFault α) : Except SynthesisFault Unit :=
  x.map fun _ => ()

theorem outcome_bind {α β : Type} (x : Except SynthesisFault α) (f : α → β) :
    outcome (x >>= fun a => .ok (f a)) = outcome x := by
  cases x <;> rfl

/-- Items that come to what their visits do come to it together. -/
theorem outcome_mapM {α β : Type} {owner : Name} {f : α → Except SynthesisFault β}
    {g : α → List (Rule × Definition)} {xs : List α}
    (h : ∀ x ∈ xs, outcome (f x) = verdict doc owner (g x)) :
    outcome (xs.mapM f) = verdict doc owner (xs.flatMap g) := by
  induction xs with
  | nil => rfl
  | cons x xs ih =>
    obtain ⟨hx, hxs⟩ := List.forall_mem_cons.1 h
    rw [List.mapM_cons, List.flatMap_cons, verdict_append, ← hx, ← ih hxs]
    cases f x with
    | error e => rfl
    | ok y => cases xs.mapM f <;> rfl

section Definitions

variable {name : String}

theorem outcome_ofRef {d : Definition} {ref : String} (hr : d.ref = some ref) :
    outcome (ofRef doc ref (some (.text name))) = verdict doc (.text name) [(.reference, d)] := by
  rw [ofRef, Document.resolve]
  cases hx : doc.getText? (Document.refTarget ref) with
  | none =>
    have hmissing : .text (Document.refTarget ref) ∉ doc.names := by
      rw [← isNone_getText?_iff, hx]
      rfl
    rw [verdict_cons_of_flawed (.unresolved hr hmissing)]
    rfl
  | some x =>
    have hthere : WellFormed doc (.reference, d) := by
      intro ref' hr'
      obtain rfl : ref = ref' := Option.some.inj (hr.symm.trans hr')
      exact Document.text_mem_names hx
    rw [verdict_cons_of_wellFormed hthere]
    rfl

theorem outcome_ofEnum {d : Definition} {values : List String} (he : d.enum = some values) :
    outcome (ofEnum values (some (.text name))) = verdict doc (.text name) [(.literals, d)] := by
  rw [ofEnum]
  cases values with
  | nil =>
    rw [verdict_cons_of_flawed (.emptyEnum he)]
    rfl
  | cons v values =>
    have hfilled : WellFormed doc (.literals, d) := by simp [WellFormed, he]
    rw [verdict_cons_of_wellFormed hfilled]
    rfl

theorem isSome_scalarOf?_iff (type : Option String) :
    (type.bind scalarOf?).isSome = true ↔ type ∈ scalarTypes := by
  cases type with
  | none => decide
  | some t =>
    rw [Option.bind_some, scalarOf?]
    simp only [scalarTypes, List.mem_cons, Option.some.injEq, List.not_mem_nil, or_false]
    split_ifs <;> simp_all

theorem outcome_ofScalar (d : Definition) :
    outcome (ofScalar d.type (some (.text name))) = verdict doc (.text name) [(.scalar, d)] := by
  have hscalar := isSome_scalarOf?_iff d.type
  rw [ofScalar]
  cases hp : d.type.bind scalarOf? with
  | none =>
    have htype : d.type ∉ scalarTypes := by
      rw [← hscalar, hp]
      decide
    rw [verdict_cons_of_flawed (.unsupported htype)]
    rfl
  | some p =>
    have htype : WellFormed doc (.scalar, d) := by
      rw [WellFormed, ← hscalar, hp]
      rfl
    rw [verdict_cons_of_wellFormed htype]
    rfl

/-- The visits from a property. -/
def visitsOfProperty (p : String × Definition) : List (Rule × Definition) :=
  if p.1 == tagProperty then [] else p.2.visits p.2.rule

theorem flatMap_visitsOfProperty (ps : List (String × Definition)) :
    ps.flatMap visitsOfProperty =
      ((ps.filter fun p => p.1 != tagProperty).map fun p => p.2).flatMap fun c => c.visits c.rule := by
  induction ps with
  | nil => rfl
  | cons p ps ih =>
    rw [List.flatMap_cons, ih, visitsOfProperty, List.filter_cons, bne]
    cases p.1 == tagProperty <;> rfl

theorem outcome_ofProperty {required : List String} {p : String × Definition} (hp : p.2.Plain)
    (h : outcome (ofDefinition doc registry (some (.text name)) p.2) =
      verdict doc (.text name) (p.2.visits p.2.rule)) :
    outcome (ofProperty doc registry (.text name) required p) =
      verdict doc (.text name) (visitsOfProperty p) := by
  obtain ⟨fieldDoc, hdoc⟩ := exists_docFor p.1 hp.isJson_sample
  rw [ofProperty_of_docFor hdoc, outcome_bind, typeOfProperty, visitsOfProperty]
  split
  next =>
    cases hm : memberFor registry (.text name) p.2 with
    | ok m => rfl
    | error f =>
      obtain ⟨-, v, hv⟩ := eq_other_of_memberFor hm
      cases hv
  next => exact h

theorem outcome_ofProperties {required : List String} {d : Definition}
    (hd : ∀ p ∈ d.properties.getD [], p.2.Plain)
    (h : ∀ p ∈ d.properties.getD [], outcome (ofDefinition doc registry (some (.text name)) p.2) =
      verdict doc (.text name) (p.2.visits p.2.rule)) :
    outcome (ofProperties doc registry (.text name) required (d.properties.getD []) >>= fun fs =>
      .ok (ofFields fs)) = verdict doc (.text name) (d.visits .object) := by
  have hobject : WellFormed doc (.object, d) := trivial
  rw [outcome_bind, ofProperties_eq_mapM,
    outcome_mapM fun p hp => outcome_ofProperty (hd p hp) (h p hp), flatMap_visitsOfProperty,
    visits_eq, verdict_cons_of_wellFormed hobject, parts]

/-- A definition comes to what its visits do. -/
theorem outcome_ofDefinition {d : Definition} (hd : d.Plain) :
    outcome (ofDefinition doc registry (some (.text name)) d) =
      verdict doc (.text name) (d.visits d.rule) := by
  induction hd with
  | @mk d hOneOf hItems hPlain hSample ihOneOf ihItems ihProperties =>
    cases d.form with
    | reference hr =>
      have hrule : d.rule = .reference := by simp [Definition.rule, hr]
      rw [ofDefinition_reference hr, visits_eq, hrule]
      exact outcome_ofRef hr
    | literals hr he =>
      have hrule : d.rule = .literals := by simp [Definition.rule, hr, he]
      rw [ofDefinition_literals hr he, visits_eq, hrule]
      exact outcome_ofEnum he
    | @alternatives bs hr he ho =>
      have hrule : d.rule = .alternatives := by simp [Definition.rule, hr, he, ho]
      rw [ofDefinition_alternatives hr he ho, visits_eq, hrule]
      split
      next hbs =>
        rw [verdict_cons_of_flawed (.emptyOneOf (ho.trans (congrArg some hbs)))]
        rfl
      next hbs =>
        have hfilled : WellFormed doc (.alternatives, d) := by simpa [WellFormed, ho] using hbs
        rw [outcome_bind, ofBranches_eq_mapM, outcome_mapM fun b hb => ihOneOf bs ho b hb,
          verdict_cons_of_wellFormed hfilled, parts, ho, Option.getD_some]
    | array hr he ho ht =>
      have hrule : d.rule = .array := by simp [Definition.rule, hr, he, ho, ht]
      rw [ofDefinition_array hr he ho ht, visits_eq, hrule]
      cases hi : d.items with
      | none =>
        rw [verdict_cons_of_flawed (.arrayWithoutItems hi)]
        rfl
      | some item =>
        have hthere : WellFormed doc (.array, d) := by simp [WellFormed, hi]
        dsimp only
        rw [outcome_bind, ihItems item hi, verdict_cons_of_wellFormed hthere, parts, hi]
        simp
    | object hr he ho ht hobj =>
      have hrule : d.rule = .object := by simp [Definition.rule, hr, he, ho, ht, hobj]
      rw [ofDefinition_object hr he ho ht hobj, enclosing_text, hrule]
      exact outcome_ofProperties hPlain ihProperties
    | scalar hr he ho ht hobj =>
      have hrule : d.rule = .scalar := by simp [Definition.rule, hr, he, ho, ht, hobj]
      rw [ofDefinition_scalar hr he ho ht hobj, visits_eq, hrule]
      exact outcome_ofScalar d

/-- So does one at the top level. -/
theorem outcome_ofSchema {d : Definition} (hd : d.Plain) :
    outcome (ofSchema doc registry (.text name) d) =
      verdict doc (.text name) (d.visits d.schemaRule) := by
  rw [ofSchema, Definition.schemaRule]
  split
  next =>
    exact outcome_ofProperties (fun p hp => hd.property hp)
      fun p hp => outcome_ofDefinition (hd.property hp)
  next => exact outcome_ofDefinition hd

end Definitions

theorem outcome_eq_ok_iff {α : Type} {x : Except SynthesisFault α} :
    outcome x = .ok () ↔ ∃ a, x = .ok a := by
  cases x <;> simp [outcome, Except.map]

theorem outcome_eq_error_iff {α : Type} {x : Except SynthesisFault α} {f : SynthesisFault} :
    outcome x = .error f ↔ x = .error f := by
  cases x <;> simp [outcome, Except.map]

/-- A definition of a document in JSON has a type exactly if all definitions that are visited from it
are well formed, and otherwise the first flaw among these is why it has none. -/
theorem type_or_first_flaw (doc : Document) (hdoc : doc.FromJson) (registry : Option Registry)
    (n : Name) (d : Definition) (hd : (n, d) ∈ doc.entries) :
    ((∃ s, ofSchema doc registry n d = .ok s) ↔ ∀ v ∈ d.visits d.schemaRule, WellFormed doc v) ∧
      ∀ f, ofSchema doc registry n d = .error f ↔
        ∃ before v after e, d.visits d.schemaRule = before ++ v :: after ∧
          (∀ u ∈ before, WellFormed doc u) ∧ Flawed doc n v e ∧ f = .schema e := by
  obtain ⟨name, hname⟩ := hdoc.plain.textual _ hd
  obtain rfl : n = .text name := hname
  have h : outcome (ofSchema doc registry (.text name) d) =
      verdict doc (.text name) (d.visits d.schemaRule) :=
    outcome_ofSchema (hdoc.plain.definitions _ hd)
  constructor
  · rw [← outcome_eq_ok_iff, h, verdict_eq_ok_iff]
  · intro f
    rw [← outcome_eq_error_iff, h, verdict_eq_error_iff]

/-- Nothing but a type. -/
def ofType (type : String) : Definition :=
  { Definition.blank with type := some type }

/-- An array of nothing and a number, neither of which can be. -/
def drawers : Definition :=
  { Definition.blank with oneOf := some [ofType "string", ofType "array"] }

/-- A reference that hides a flaw. -/
def cabinetTop : Definition :=
  { pointer "Cabinet" with enum := some [] }

/-- An object with flaws that are not visited, beside its properties, in its tag and behind a reference,
and with two that are. -/
def cabinet : Definition :=
  { Definition.blank with
    ref := some "Nowhere"
    properties := some [(tagProperty, { Definition.blank with enum := some [] }),
      ("top", cabinetTop), ("drawers", drawers), ("width", ofType "number")] }

def cabinets : Document :=
  ⟨[(.text "Cabinet", cabinet)]⟩

theorem fromJson_cabinets : cabinets.FromJson := by
  have hvalue : Value.OfTexts (.object
      [("Cabinet", .object [("$ref", .text "Nowhere"), ("properties", .object
        [("_object", .object [("enum", .list [])]),
          ("top", .object [("$ref", .text "Cabinet"), ("enum", .list [])]),
          ("drawers", .object [("oneOf", .list [.object [("type", .text "string")],
            .object [("type", .text "array")]])]),
          ("width", .object [("type", .text "number")])])])]) := by
    simp
  exact Document.fromJson_of_ofTexts hvalue rfl

theorem type_or_first_flaw_cabinet :
    (¬∃ s, ofSchema cabinets none (.text "Cabinet") cabinet = .ok s) ∧
      ofSchema cabinets none (.text "Cabinet") cabinet =
        .error (.schema (.arrayWithoutItems (some (.text "Cabinet")))) := by
  obtain ⟨hok, herror⟩ := type_or_first_flaw cabinets fromJson_cabinets none (.text "Cabinet") cabinet
    List.mem_cons_self
  have hvisits : cabinet.visits cabinet.schemaRule =
      [(.object, cabinet), (.reference, cabinetTop), (.alternatives, drawers),
        (.scalar, ofType "string")] ++ (.array, ofType "array") :: [(.scalar, ofType "number")] := by
    have hcabinet : cabinet.parts cabinet.schemaRule = [cabinetTop, drawers, ofType "number"] := rfl
    have hdrawers : drawers.parts drawers.rule = [ofType "string", ofType "array"] := rfl
    have hsingle : ∀ d : Definition, d.parts d.rule = [] → d.visits d.rule = [(d.rule, d)] := by
      intro d hd
      rw [visits_eq, hd]
      rfl
    rw [visits_eq, hcabinet, List.flatMap_cons, List.flatMap_cons, List.flatMap_singleton,
      hsingle cabinetTop rfl, hsingle (ofType "number") rfl, visits_eq _ drawers, hdrawers,
      List.flatMap_cons, List.flatMap_singleton, hsingle (ofType "string") rfl,
      hsingle (ofType "array") rfl]
    rfl
  have hbefore : ∀ u ∈ [(Rule.object, cabinet), (.reference, cabinetTop), (.alternatives, drawers),
      (.scalar, ofType "string")], WellFormed cabinets u := by
    simp only [List.forall_mem_cons]
    refine ⟨trivial, ?_, nofun, (by decide : some "string" ∈ scalarTypes), nofun⟩
    rintro ref ⟨⟩
    exact List.mem_cons_self
  have hflaw : Flawed cabinets (.text "Cabinet") (.array, ofType "array")
      (.arrayWithoutItems (some (.text "Cabinet"))) :=
    .arrayWithoutItems rfl
  refine ⟨fun hs => ?_, (herror _).2 ⟨_, _, _, _, hvisits, hbefore, hflaw, rfl⟩⟩
  have hall := hok.1 hs (.array, ofType "array") (by rw [hvisits]; simp)
  exact hall rfl

end Synthesis

end SchemaDecl
