import SchemaDecl.Proofs.Inspection
import SchemaDecl.Proofs.Synthesis.Visits

/-! The kinds in a listing beside the types of the definitions. The listing tells the kind of a
declaration from the parts of its definition, and so do the rules that give the type, but the rules
look for a reference before they look for values and alternatives, and the listing does not look for
references at all. Where a definition has a reference in front of one of those, the two differ, and
nowhere else. -/

namespace SchemaDecl

open List (Forall₂)

/-! ### Kinds of types and of rules -/

/-- The kind of declaration that a type makes. -/
def TypeExpr.kind : TypeExpr → String
  | .record _ => "record"
  | .literals _ => "enum"
  | .union _ => "union"
  | .reference _ _ => "alias"
  | .sequence _ => "alias"
  | .primitive _ => "alias"

/-- The kind of the types that a rule gives. -/
def Rule.kind : Rule → String
  | .object => "record"
  | .literals => "enum"
  | .alternatives => "union"
  | .reference => "alias"
  | .array => "alias"
  | .scalar => "alias"

/-- A definition with values or alternatives that a reference in front of them hides. -/
def Definition.Veiled (x : Definition) : Prop :=
  ¬x.isObject ∧ x.ref.isSome ∧ (x.enum.isSome ∨ x.oneOf.isSome)

theorem Definition.schemaRule_of_veiled {x : Definition} (h : x.Veiled) :
    x.schemaRule = .reference := by
  rw [schemaRule, if_neg h.1, rule, if_pos h.2.1]

namespace Synthesis

variable {doc : Document} {registry : Option Registry}

theorem closed_kind : Closed doc registry fun _ d s => s.type.kind = d.rule.kind where
  reference hr _ := by simp [Definition.rule, hr, TypeExpr.kind, Rule.kind]
  literals hr he _ := by simp [Definition.rule, hr, he, TypeExpr.kind, Rule.kind]
  union hr he ho _ _ := by simp [Definition.rule, hr, he, ho, TypeExpr.kind, Rule.kind]
  sequence hr he ho ht _ _ _ := by simp [Definition.rule, hr, he, ho, ht, TypeExpr.kind, Rule.kind]
  record hr he ho ht hobj _ := by
    simp [Definition.rule, hr, he, ho, ht, hobj, ofFields, TypeExpr.kind, Rule.kind]
  primitive hr he ho ht hobj _ := by
    simp [Definition.rule, hr, he, ho, ht, hobj, TypeExpr.kind, Rule.kind]

/-- The rule that decides about a definition gives the kind of its type. -/
theorem kind_of_ofSchema {name : Name} {x : Definition} {s : Synthesis}
    (h : ofSchema doc registry name x = .ok s) : s.type.kind = x.schemaRule.kind := by
  rw [Definition.schemaRule]
  rcases closed_kind.of_ofSchema h with ⟨ho, fs, rfl, -⟩ | ⟨ho, hs⟩
  · rw [if_pos ho]
    rfl
  · rw [if_neg ho]
    exact hs

/-- Behind a veil there is the reference alone. -/
theorem reference_of_veiled {name : Name} {x : Definition} {s : Synthesis} (hx : x.Veiled)
    (h : ofSchema doc registry name x = .ok s) : ∃ target, s.type = .reference target none := by
  obtain ⟨hobj, href, -⟩ := hx
  obtain ⟨ref, hr⟩ := Option.isSome_iff_exists.1 href
  rw [ofSchema, if_neg hobj, ofDefinition_reference hr] at h
  obtain ⟨-, rfl⟩ := ofRef_eq_ok h
  exact ⟨_, rfl⟩

end Synthesis

namespace Inspection

/-! ### Kinds of rows -/

/-- The kind in a row describes a type. -/
structure Row.Describes (row : Row) (t : TypeExpr) : Prop where
  record_iff : row.kind = "record" ↔ ∃ fields, t = .record fields
  enum_iff : row.kind = "enum" ↔ ∃ values, t = .literals values
  union_iff : row.kind = "union" ↔ ∃ members, t = .union members
  alias_iff : row.kind = "alias" ↔
    (∃ name m, t = .reference name m) ∨ (∃ item, t = .sequence item) ∨ ∃ p, t = .primitive p

theorem Row.describes_iff {row : Row} {t : TypeExpr} : row.Describes t ↔ row.kind = t.kind := by
  constructor
  · intro h
    cases t with
    | record fields => exact h.record_iff.2 ⟨_, rfl⟩
    | literals values => exact h.enum_iff.2 ⟨_, rfl⟩
    | union members => exact h.union_iff.2 ⟨_, rfl⟩
    | reference name m => exact h.alias_iff.2 (.inl ⟨_, _, rfl⟩)
    | sequence item => exact h.alias_iff.2 (.inr (.inl ⟨_, rfl⟩))
    | primitive p => exact h.alias_iff.2 (.inr (.inr ⟨_, rfl⟩))
  · intro h
    constructor <;> rw [h] <;> cases t <;> simp [TypeExpr.kind]

variable {doc : Document} {name : Name} {x : Definition}

theorem kindOf_of_isObject (hs : kindOf doc name x ≠ "sentinel") (hobj : x.isObject) :
    kindOf doc name x = "record" := by
  unfold kindOf at hs ⊢
  split at hs
  next => exact absurd rfl hs
  next hsentinel => rw [if_neg hsentinel, if_pos hobj]

theorem kindOf_of_not_isObject (hs : kindOf doc name x ≠ "sentinel") (hobj : ¬x.isObject) :
    kindOf doc name x =
      if x.enum.isSome then "enum" else if x.oneOf.isSome then "union" else "alias" := by
  unfold kindOf at hs ⊢
  split at hs
  next => exact absurd rfl hs
  next hsentinel => rw [if_neg hsentinel, if_neg hobj]

theorem kindOf_of_veiled (hs : kindOf doc name x ≠ "sentinel") (hx : x.Veiled) :
    kindOf doc name x = "enum" ∨ kindOf doc name x = "union" := by
  obtain ⟨hobj, -, hparts⟩ := hx
  rw [kindOf_of_not_isObject hs hobj]
  by_cases he : x.enum.isSome = true
  · exact .inl (if_pos he)
  · rw [if_neg he, if_pos (hparts.resolve_left he)]
    exact .inr rfl

theorem kindOf_of_not_veiled (hs : kindOf doc name x ≠ "sentinel") (hx : ¬x.Veiled) :
    kindOf doc name x = x.schemaRule.kind := by
  unfold Definition.schemaRule
  by_cases hobj : x.isObject = true
  · rw [if_pos hobj, kindOf_of_isObject hs hobj]
    rfl
  rw [if_neg hobj, kindOf_of_not_isObject hs hobj, Definition.rule]
  by_cases href : x.ref.isSome = true
  · obtain ⟨he, ho⟩ := not_or.1 fun hparts => hx ⟨hobj, href, hparts⟩
    rw [if_pos href, if_neg he, if_neg ho]
    rfl
  rw [if_neg href]
  split_ifs <;> rfl

/-- The kind that is listed is the one of the rule unless a reference hides the parts that the listing
goes by. -/
theorem kindOf_eq_kind_iff (hs : kindOf doc name x ≠ "sentinel") :
    kindOf doc name x = x.schemaRule.kind ↔ ¬x.Veiled := by
  refine ⟨fun h hx => ?_, kindOf_of_not_veiled hs⟩
  rw [Definition.schemaRule_of_veiled hx] at h
  rcases kindOf_of_veiled hs hx with hkind | hkind <;> simp [hkind, Rule.kind] at h

/-- What a row with a kind says of its definition. -/
structure Row.Classifies (doc : Document) (x : Name × Definition) (row : Row) : Prop where
  exists_type : ∃ r s, (Registry.build doc []).result = .ok r ∧
    Synthesis.ofSchema doc (some r) x.1 x.2 = .ok s
  /-- With whatever registry there is a type, the kind describes it, unless the definition is veiled. -/
  describes_iff : ∀ registry s, Synthesis.ofSchema doc registry x.1 x.2 = .ok s →
    (row.Describes s.type ↔ ¬x.2.Veiled)
  veiled : x.2.Veiled → (row.kind = "enum" ∨ row.kind = "union") ∧
    ∀ registry s, Synthesis.ofSchema doc registry x.1 x.2 = .ok s →
      ∃ target, s.type = .reference target none

theorem classifies_of_row {r : Registry} {row : Row} (hr : (Registry.build doc []).result = .ok r)
    (h : Inspection.row doc r name x = .ok row) (hinvalid : row.kind ≠ "invalid")
    (hsentinel : row.kind ≠ "sentinel") : Row.Classifies doc (name, x) row := by
  unfold Inspection.row at h
  split at h
  next s hs =>
    cases h
    exact {
      exists_type := ⟨r, s, hr, hs⟩
      describes_iff := fun registry s' hs' => by
        rw [Row.describes_iff, Synthesis.kind_of_ofSchema hs']
        exact kindOf_eq_kind_iff hsentinel
      veiled := fun hx =>
        ⟨kindOf_of_veiled hsentinel hx, fun _ _ hs' => Synthesis.reference_of_veiled hx hs'⟩ }
  next =>
    cases h
    exact absurd rfl hinvalid
  next => cases h

theorem row_name {r : Registry} {row : Row} (h : Inspection.row doc r name x = .ok row) :
    row.name = name := by
  unfold Inspection.row at h
  split at h <;> cases h <;> rfl

theorem forall₂_of_rowsOf {r : Registry} {P : Name × Definition → Row → Prop}
    {entries : List (Name × Definition)} {rs : List Row} (h : rowsOf doc r entries = .ok rs)
    (hP : ∀ x row, Inspection.row doc r x.1 x.2 = .ok row → P x row) : Forall₂ P entries rs := by
  induction entries generalizing rs with
  | nil =>
    cases h
    exact .nil
  | cons x rest ih =>
    rw [rowsOf] at h
    obtain ⟨row, hrow, h⟩ := bind_eq_ok h
    obtain ⟨others, hothers, h⟩ := bind_eq_ok h
    cases h
    exact .cons (hP x row hrow) (ih hothers)

/-! ### The listing of a document -/

/-- The kinds in a listing describe the types of the definitions, except for definitions whose values
or alternatives are hidden by a reference: these are listed by what is hidden, and their type is the
reference. -/
theorem rows_classify (d : Document) (rs : List Row) (h : (rows d).result = .ok rs) :
    Forall₂ (fun x row => row.name = x.1 ∧
      (row.kind ≠ "invalid" → row.kind ≠ "sentinel" → Row.Classifies d x row)) d.entries rs := by
  unfold rows at h
  rw [Run.result_bind] at h
  obtain ⟨r, hr, h⟩ := bind_eq_ok h
  exact forall₂_of_rowsOf h fun x row hrow => ⟨row_name hrow, classifies_of_row hr hrow⟩

/-- A reference with a value beside it. -/
def label : Definition :=
  { Definition.blank with ref := some "B", enum := some ["x"] }

def labels : Document :=
  ⟨[(.text "A", label), (.text "B", Synthesis.ofType "string")]⟩

def labelRows : List Row :=
  [⟨.text "A", "enum", "-", "B"⟩, ⟨.text "B", "alias", "-", "-"⟩]

theorem rows_labels : (rows labels).result = .ok labelRows := rfl

theorem rows_classify_labels :
    (rows labels).result = .ok labelRows ∧
      Forall₂ (fun x row => row.name = x.1 ∧
        (row.kind ≠ "invalid" → row.kind ≠ "sentinel" → Row.Classifies labels x row))
        labels.entries labelRows :=
  ⟨rows_labels, rows_classify labels labelRows rows_labels⟩

/-- The listing calls the first definition an enumeration, and with every registry its type is a
reference. -/
theorem not_describes_label :
    (rows labels).result = .ok labelRows ∧
      ∃ row, labelRows.head? = some row ∧ row.name = .text "A" ∧ row.kind = "enum" ∧
        ∀ registry, ∃ s, Synthesis.ofSchema labels registry (.text "A") label = .ok s ∧
          s.type = .reference "B" none ∧ ¬row.Describes s.type := by
  refine ⟨rows_labels, _, rfl, rfl, rfl, fun registry => ⟨_, rfl, rfl, fun h => ?_⟩⟩
  obtain ⟨values, hvalues⟩ := h.enum_iff.1 rfl
  cases hvalues

end Inspection

end SchemaDecl
