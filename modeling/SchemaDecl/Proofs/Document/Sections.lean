import SchemaDecl.Proofs.Definition.Slots
import SchemaDecl.Proofs.Document.Plain

/-! Decoding documents entry by entry. Which part of the data holds the definitions is told by the keys
around them, and each definition is decoded by itself; so data that is changed inside definitions
decodes to a document with the same names. -/

namespace SchemaDecl

open List (Forall₂)

theorem Value.fieldOf_map {f : Value → Value → Value} (key : String)
    (entries : List (Value × Value)) :
    fieldOf key (entries.map fun e => (e.1, f e.1 e.2)) =
      (fieldOf key entries).map (f (.text key)) := by
  induction entries with
  | nil => rfl
  | cons e rest ih =>
    obtain ⟨k, v⟩ := e
    rw [List.map_cons]
    by_cases hk : k = .text key
    · subst hk
      simp [fieldOf]
    · rw [fieldOf_cons_of_ne hk, fieldOf_cons_of_ne hk, ih]

theorem Value.isSome_fieldOf_of_keys {entries entries' : List (Value × Value)}
    (h : entries'.map Prod.fst = entries.map Prod.fst) (key : String) :
    (fieldOf key entries').isSome = (fieldOf key entries).isSome := by
  induction entries generalizing entries' with
  | nil =>
    cases List.map_eq_nil_iff.1 h
    rfl
  | cons e rest ih =>
    obtain ⟨⟨k', v'⟩, rest', rfl, hk, hrest⟩ := List.map_eq_cons_iff.1 h
    obtain ⟨k, v⟩ := e
    obtain rfl : k' = k := hk
    by_cases hkey : k' = .text key
    · subst hkey
      simp [fieldOf]
    · rw [fieldOf_cons_of_ne hkey, fieldOf_cons_of_ne hkey, ih hrest]

namespace Document

/-- Whether data is wrapped depends on its keys alone. -/
theorem isWrapped_of_keys {entries entries' : List (Value × Value)}
    (h : entries'.map Prod.fst = entries.map Prod.fst) :
    isWrapped (.map entries') = isWrapped (.map entries) := by
  simp only [isWrapped, Value.isSome_fieldOf_of_keys h]

theorem section?_of_bare {v : Value} (h : isWrapped v = .ok false) :
    Document.section? v = .ok v := by
  unfold Document.section?
  rw [h]
  rfl

theorem section?_of_wrapped {entries inner : List (Value × Value)}
    (h : isWrapped (.map entries) = .ok true)
    (hi : orEmpty (Value.fieldOf "components" entries) = .map inner) :
    Document.section? (.map entries) = .ok (orEmpty (Value.fieldOf "schemas" inner)) := by
  unfold Document.section?
  rw [h]
  dsimp only [bind, Except.bind]
  rw [if_pos rfl, hi]

/-- Wrapped data has its section where both keys lead. -/
theorem exists_of_section?_wrapped {v w : Value} (hw : isWrapped v = .ok true)
    (h : Document.section? v = .ok w) :
    ∃ entries inner, v = .map entries ∧ orEmpty (Value.fieldOf "components" entries) = .map inner ∧
      w = orEmpty (Value.fieldOf "schemas" inner) := by
  obtain ⟨wrapped, hwrapped, h⟩ := bind_eq_ok h
  obtain rfl : true = wrapped := Except.ok.inj (hw.symm.trans hwrapped)
  rw [if_pos rfl] at h
  cases v with
  | map entries =>
    dsimp only at h
    split at h
    next inner hi => exact ⟨entries, inner, rfl, hi, (Except.ok.inj h).symm⟩
    next => cases h
  | _ => cases h

theorem ofValue_of_decodeEntries {v : Value} {entries : List (Value × Value)}
    {xs : List (Name × Definition)}
    (hw : Document.section? (Definition.unrolledDocument v) = .ok (.map entries))
    (h : decodeEntries entries = .ok xs) : ofValue v = .ok ⟨xs⟩ := by
  unfold ofValue
  rw [hw]
  show (decodeEntries entries >>= fun xs => Except.ok (⟨xs⟩ : Document)) = _
  rw [h]
  rfl

/-- The definitions of a section decode when those of another one with the same names do. The relation
of the results may heed what they were decoded from. -/
theorem exists_decodeEntries {R : Value → Definition → Definition → Prop}
    {T : List (Value × Value) → List (Name × Definition) → List (Name × Definition) → Prop}
    {es es' : List (Value × Value)}
    (h : Forall₂ (fun e e' => e'.1 = e.1 ∧
      Check.Follows (R e.2) (Definition.decode e.2) (Definition.decode e'.2)) es es')
    (hnil : T [] [] [])
    (hcons : ∀ e es d d' xs xs', R e.2 d d' → T es xs xs' →
      T (e :: es) ((Name.ofValue e.1, d) :: xs) ((Name.ofValue e.1, d') :: xs'))
    {xs : List (Name × Definition)} (hxs : decodeEntries es = .ok xs) :
    ∃ xs', decodeEntries es' = .ok xs' ∧ T es xs xs' := by
  induction h generalizing xs with
  | nil =>
    cases hxs
    exact ⟨[], rfl, hnil⟩
  | @cons e e' es es' he _ ih =>
    obtain ⟨k, v⟩ := e
    obtain ⟨k', v'⟩ := e'
    obtain ⟨hk, hv⟩ := he
    obtain rfl : k' = k := hk
    rw [decodeEntries] at hxs
    split at hxs
    next => cases hxs
    next d hd =>
      obtain ⟨rest, hrest, rfl⟩ := map_eq_ok hxs
      obtain ⟨d', hd', hr⟩ := hv d hd
      obtain ⟨rest', hrest', ht⟩ := ih hrest
      refine ⟨(Name.ofValue k', d') :: rest', ?_, hcons (k', v) _ d d' _ _ hr ht⟩
      rw [decodeEntries, hd', hrest']
      rfl

end Document

end SchemaDecl
