import SchemaDecl.Definition

/-! Induction on definitions. A definition holds others in three places: as alternatives, as the items
of an array and as properties. What lies in these lies in it. -/

namespace SchemaDecl.Definition

theorem sizeOf_branch_lt {d b : Definition} {bs : List Definition} (h : d.oneOf = some bs)
    (hb : b ∈ bs) : sizeOf b < sizeOf d := by
  cases d
  cases h
  have := List.sizeOf_lt_of_mem hb
  simp only [mk.sizeOf_spec, Option.some.sizeOf_spec]
  omega

theorem sizeOf_items_lt {d x : Definition} (h : d.items = some x) : sizeOf x < sizeOf d := by
  cases d
  cases h
  simp only [mk.sizeOf_spec, Option.some.sizeOf_spec]
  omega

theorem sizeOf_property_lt {d : Definition} {p : String × Definition}
    (h : p ∈ d.properties.getD []) : sizeOf p.2 < sizeOf d := by
  obtain ⟨ref, oneOf, type, enum, items, _ | ps, required, notes⟩ := d
  · cases h
  · have : sizeOf p < sizeOf ps := List.sizeOf_lt_of_mem h
    cases p
    simp only [mk.sizeOf_spec, Option.some.sizeOf_spec, Prod.mk.sizeOf_spec] at *
    omega

/-- What holds of a definition as soon as it holds of those in it holds of all. -/
@[elab_as_elim]
theorem induct {P : Definition → Prop}
    (step : ∀ d : Definition, (∀ bs, d.oneOf = some bs → ∀ b ∈ bs, P b) →
      (∀ x, d.items = some x → P x) → (∀ p ∈ d.properties.getD [], P p.2) → P d)
    (d : Definition) : P d :=
  step d (fun _ h b hb => have := sizeOf_branch_lt h hb; induct step b)
    (fun x h => have := sizeOf_items_lt h; induct step x)
    (fun p h => have := sizeOf_property_lt h; induct step p.2)
termination_by sizeOf d

/-- The first definition is the second one or lies in it. -/
inductive Within : Definition → Definition → Prop
  | self (d : Definition) : Within d d
  | branch {c d b : Definition} {bs : List Definition} (h : d.oneOf = some bs) (hb : b ∈ bs)
      (hc : Within c b) : Within c d
  | items {c d x : Definition} (h : d.items = some x) (hc : Within c x) : Within c d
  | property {c d : Definition} {p : String × Definition} (h : p ∈ d.properties.getD [])
      (hc : Within c p.2) : Within c d

end SchemaDecl.Definition
