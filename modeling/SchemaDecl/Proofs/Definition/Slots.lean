import Mathlib.Data.List.Forall2
import Mathlib.Data.Option.Basic
import SchemaDecl.Proofs.Definition.Plain

/-! Decoding part by part. What an object says depends on no more than the values under its keys, and a
definition is put together from its parts one by one; so data that is changed in one part of a
definition decodes to a definition that differs in this part at most. -/

namespace SchemaDecl

namespace Check

variable {α β : Type} {R : α → α → Prop} {S : β → β → Prop} {a a' : Check α} {b b' : Check β}

/-- Whenever the first check goes through, so does the second one, with a result in this relation to
that of the first. -/
def Follows (R : α → α → Prop) (c c' : Check α) : Prop :=
  ∀ x, c = .ok x → ∃ x', c' = .ok x' ∧ R x x'

theorem Follows.refl (h : ∀ x, R x x) (c : Check α) : Follows R c c :=
  fun x hx => ⟨x, hx, h x⟩

theorem Follows.mono {R' : α → α → Prop} (h : Follows R a a') (hR : ∀ x x', R x x' → R' x x') :
    Follows R' a a' := by
  intro x hx
  obtain ⟨x', hx', hr⟩ := h x hx
  exact ⟨x', hx', hR x x' hr⟩

theorem Follows.within (h : Follows R a a') (step : Step) :
    Follows R (a.within step) (a'.within step) := by
  intro x hx
  obtain ⟨x', hx', hr⟩ := h x (within_eq_ok hx)
  refine ⟨x', ?_, hr⟩
  rw [hx']
  rfl

theorem Follows.map {f : α → β} (h : Follows R a a') (hf : ∀ x x', R x x' → S (f x) (f x')) :
    Follows S (a.map f) (a'.map f) := by
  intro y hy
  obtain ⟨x, hx, rfl⟩ := map_eq_ok hy
  obtain ⟨x', hx', hr⟩ := h x hx
  refine ⟨f x', ?_, hf x x' hr⟩
  rw [hx']
  rfl

theorem Follows.and (h : Follows R a a') (hb : Follows S b b') :
    Follows (fun p p' => R p.1 p'.1 ∧ S p.2 p'.2) (a.and b) (a'.and b') := by
  intro p hp
  obtain ⟨ha, hb'⟩ := and_eq_ok hp
  obtain ⟨x', hx', hr⟩ := h _ ha
  obtain ⟨y', hy', hs⟩ := hb _ hb'
  refine ⟨(x', y'), ?_, hr, hs⟩
  rw [hx', hy']
  rfl

theorem Follows.cons {T T' : List α → List α → Prop} {b b' : Check (List α)} (h : Follows R a a')
    (hb : Follows T b b') (hcons : ∀ x x' xs xs', R x x' → T xs xs' → T' (x :: xs) (x' :: xs')) :
    Follows T' (Check.cons a b) (Check.cons a' b') :=
  (h.and hb).map fun p p' hp => hcons p.1 p'.1 p.2 p'.2 hp.1 hp.2

theorem optional_of_ne_null {α : Type} {f : Value → Check α} {v : Value} (h : v ≠ .null) :
    optional f v = (f v).map some := by
  cases v with
  | null => exact absurd rfl h
  | _ => rfl

end Check

theorem Value.fieldOf_cons_of_ne {key : String} {k v : Value} {rest : List (Value × Value)}
    (h : k ≠ .text key) : fieldOf key ((k, v) :: rest) = fieldOf key rest := by
  cases k with
  | text s =>
    have hs : s ≠ key := by simpa using h
    rw [fieldOf, if_neg (by simpa using hs)]
  | _ => rfl

theorem Value.mem_of_fieldOf {key : String} {entries : List (Value × Value)} {v : Value}
    (h : fieldOf key entries = some v) : (.text key, v) ∈ entries := by
  induction entries with
  | nil => cases h
  | cons e rest ih =>
    obtain ⟨k, w⟩ := e
    by_cases hk : k = .text key
    · subst hk
      rw [fieldOf, if_pos (beq_self_eq_true _)] at h
      cases h
      exact List.mem_cons_self
    · rw [fieldOf_cons_of_ne hk] at h
      exact List.mem_cons_of_mem _ (ih h)

namespace Definition

open Check (Follows)
open List (Forall₂)

/-! ### The values under keys -/

/-- What an object says that has these values under its keys. -/
def slotsOf (field : String → Option Value) : Slots where
  ref := (field "$ref").map (Check.optional Check.text)
  refName := (field "ref").map (Check.optional Check.text)
  oneOf := (field "oneOf").map decodeBranches
  oneOfName := (field "one_of").map decodeBranches
  type := (field "type").map (Check.optional Check.text)
  enum := (field "enum").map (Check.optional Check.texts)
  items := (field "items").map decodeItem
  properties := (field "properties").map decodeProperties
  required := (field "required").map Check.texts
  description := (field "description").map (Check.optional Check.text)
  sample := field "example"
  format := (field "format").map (Check.optional Check.text)
  fallback := field "default"

theorem decodeSlots_eq (entries : List (Value × Value)) :
    decodeSlots entries = slotsOf fun key => Value.fieldOf key entries := by
  induction entries with
  | nil => rfl
  | cons e rest ih =>
    obtain ⟨k, v⟩ := e
    rw [decodeSlots.eq_def]
    dsimp only
    split
    case h_14 =>
      rw [ih, slotsOf, slotsOf]
      simp (disch := assumption) only [Value.fieldOf_cons_of_ne]
    all_goals simp [ih, slotsOf, Value.fieldOf]

/-! ### Definitions by their parts -/

variable {α : Type} {R : Option α → Option α → Prop}

/-- The parts under two keys follow those under two others one by one. -/
theorem Slots.follows_either {a b : String} {x x' y y' : Option (Check (Option α))}
    (hx : Option.Rel (Follows R) x x') (hy : Option.Rel (Follows R) y y') (hnone : R none none) :
    Follows R (either a b x y) (either a b x' y') := by
  cases hx with
  | some h => exact h.within _
  | none =>
    cases hy with
    | some h => exact h.within _
    | none =>
      intro z hz
      cases hz
      exact ⟨none, rfl, hnone⟩

theorem Slots.follows_one {key : String} {x x' : Option (Check (Option α))}
    (hx : Option.Rel (Follows R) x x') (hnone : R none none) :
    Follows R (one key none x) (one key none x') := by
  cases hx with
  | some h => exact h.within _
  | none =>
    intro z hz
    cases hz
    exact ⟨none, rfl, hnone⟩

/-- Two definitions whose references and whose parts that hold definitions are in these relations, and
that have everything else in common. -/
structure Beside (R : Option String → Option String → Prop)
    (O : Option (List Definition) → Option (List Definition) → Prop)
    (I : Option Definition → Option Definition → Prop)
    (P : Option (List (String × Definition)) → Option (List (String × Definition)) → Prop)
    (d d' : Definition) : Prop where
  ref : R d.ref d'.ref
  oneOf : O d.oneOf d'.oneOf
  items : I d.items d'.items
  properties : P d.properties d'.properties
  rest : { d' with ref := d.ref, oneOf := d.oneOf, items := d.items, properties := d.properties } = d

/-- Such definitions are equal as soon as those parts are. -/
theorem Beside.eq_iff {R : Option String → Option String → Prop}
    {O : Option (List Definition) → Option (List Definition) → Prop}
    {I : Option Definition → Option Definition → Prop}
    {P : Option (List (String × Definition)) → Option (List (String × Definition)) → Prop}
    {d d' : Definition} (h : Beside R O I P d d') :
    d' = d ↔ d'.ref = d.ref ∧ d'.oneOf = d.oneOf ∧ d'.items = d.items ∧
      d'.properties = d.properties := by
  constructor
  · rintro rfl
    exact ⟨rfl, rfl, rfl, rfl⟩
  · rintro ⟨hr, ho, hi, hp⟩
    rw [← h.rest, ← hr, ← ho, ← hi, ← hp]
    cases d'
    rfl

/-- The keys of the parts that hold neither a reference nor definitions. -/
def leafKeys : List String :=
  ["type", "enum", "required", "example", "format", "description", "default"]

/-- A definition follows another one when its references and the parts that hold definitions do. -/
theorem follows_assemble {R : Option String → Option String → Prop}
    {O : Option (List Definition) → Option (List Definition) → Prop}
    {I : Option Definition → Option Definition → Prop}
    {P : Option (List (String × Definition)) → Option (List (String × Definition)) → Prop}
    {f f' : String → Option Value} (hleaf : ∀ key ∈ leafKeys, f' key = f key)
    (hr : Follows R (Slots.either "$ref" "ref" (slotsOf f).ref (slotsOf f).refName)
      (Slots.either "$ref" "ref" (slotsOf f').ref (slotsOf f').refName))
    (ho : Follows O (Slots.either "oneOf" "one_of" (slotsOf f).oneOf (slotsOf f).oneOfName)
      (Slots.either "oneOf" "one_of" (slotsOf f').oneOf (slotsOf f').oneOfName))
    (hi : Follows I (Slots.one "items" none (slotsOf f).items)
      (Slots.one "items" none (slotsOf f').items))
    (hp : Follows P (Slots.one "properties" none (slotsOf f).properties)
      (Slots.one "properties" none (slotsOf f').properties)) :
    Follows (Beside R O I P) (slotsOf f).assemble (slotsOf f').assemble := by
  have hleaves : { slotsOf f' with
      ref := (slotsOf f).ref, refName := (slotsOf f).refName, oneOf := (slotsOf f).oneOf
      oneOfName := (slotsOf f).oneOfName, items := (slotsOf f).items
      properties := (slotsOf f).properties } = slotsOf f := by
    simp only [leafKeys, List.forall_mem_cons] at hleaf
    simp only [slotsOf, hleaf]
  have hsame : ∀ {β : Type} (c : Check β), Follows Eq c c := fun c => .refl (fun _ => rfl) c
  rw [← hleaves] at hr ho hi hp ⊢
  refine Follows.map (hr.and <| ho.and <| (hsame _).and <| (hsame _).and <| hi.and <| hp.and <|
    (hsame _).and <| (hsame _).and (hsame _)) ?_
  rintro ⟨ref, oneOf, type, enum, items, properties, required, description, format⟩
    ⟨ref', oneOf', type', enum', items', properties', required', description', format'⟩
    ⟨hr, ho, rfl, rfl, hi, hp, rfl, rfl, rfl⟩
  exact ⟨hr, ho, hi, hp, rfl⟩

/-! ### Lists of definitions -/

section Lists

variable {R : Value → Definition → Definition → Prop}

/-- A list of definitions follows another one when its members do. The relation of the results may
heed what they were decoded from. -/
theorem follows_decodeList {T : List Value → List Definition → List Definition → Prop}
    {vs vs' : List Value} (h : Forall₂ (fun v v' => Follows (R v) (decode v) (decode v')) vs vs')
    (hnil : T [] [] [])
    (hcons : ∀ v vs d d' ds ds', R v d d' → T vs ds ds' → T (v :: vs) (d :: ds) (d' :: ds')) :
    ∀ n, Follows (T vs) (decodeList n vs) (decodeList n vs') := by
  induction h with
  | nil =>
    intro n ds hds
    cases hds
    exact ⟨[], rfl, hnil⟩
  | cons hv _ ih =>
    intro n
    rw [decodeList, decodeList]
    exact (hv.within _).cons (ih (n + 1)) (hcons _ _)

/-- So does a list of properties whose keys are the same. -/
theorem follows_decodeEntries
    {T : List (Value × Value) → List (String × Definition) → List (String × Definition) → Prop}
    {es es' : List (Value × Value)}
    (h : Forall₂ (fun e e' => e'.1 = e.1 ∧ Follows (R e.2) (decode e.2) (decode e'.2)) es es')
    (hnil : T [] [] [])
    (hcons : ∀ e es key d d' ps ps', Check.text e.1 = .ok key → R e.2 d d' → T es ps ps' →
      T (e :: es) ((key, d) :: ps) ((key, d') :: ps')) :
    Follows (T es) (decodeEntries es) (decodeEntries es') := by
  induction h with
  | nil =>
    intro ps hps
    cases hps
    exact ⟨[], rfl, hnil⟩
  | @cons e e' es es' he _ ih =>
    obtain ⟨k, v⟩ := e
    obtain ⟨k', v'⟩ := e'
    obtain ⟨hk, hv⟩ := he
    obtain rfl : k' = k := hk
    have hkey : Follows (fun key key' => Check.text k' = .ok key ∧ key' = key)
        (Check.text k') (Check.text k') :=
      fun key hkey => ⟨key, hkey, hkey, rfl⟩
    rw [decodeEntries, decodeEntries]
    refine (((hkey.within _).within _).and (hv.within _)).cons ih ?_
    rintro ⟨key, d⟩ ⟨key', d'⟩ ps ps' ⟨⟨htext, hkeys⟩, hd⟩ hps
    obtain rfl : key' = key := hkeys
    exact hcons (k', v) _ _ d d' ps ps' htext hd hps

end Lists

/-! ### Objects entry by entry -/

/-- The second value says under this key what the first one says, up to the relations. -/
structure Changes (R : Option String → Option String → Prop)
    (O : Option (List Definition) → Option (List Definition) → Prop)
    (I : Option Definition → Option Definition → Prop)
    (P : Option (List (String × Definition)) → Option (List (String × Definition)) → Prop)
    (key : String) (v v' : Value) : Prop where
  ref : key = "$ref" ∨ key = "ref" →
    Follows R (Check.optional Check.text v) (Check.optional Check.text v')
  oneOf : key = "oneOf" ∨ key = "one_of" → Follows O (decodeBranches v) (decodeBranches v')
  items : key = "items" → Follows I (decodeItem v) (decodeItem v')
  properties : key = "properties" → Follows P (decodeProperties v) (decodeProperties v')
  leaf : key ∈ leafKeys → v' = v

section Objects

variable {R : Option String → Option String → Prop}
  {O : Option (List Definition) → Option (List Definition) → Prop}
  {I : Option Definition → Option Definition → Prop}
  {P : Option (List (String × Definition)) → Option (List (String × Definition)) → Prop}

theorem Changes.refl (hr : ∀ x, R x x) (ho : ∀ x, O x x) (hi : ∀ x, I x x) (hp : ∀ x, P x x)
    (key : String) (v : Value) : Changes R O I P key v v where
  ref _ := .refl hr _
  oneOf _ := .refl ho _
  items _ := .refl hi _
  properties _ := .refl hp _
  leaf _ := rfl

theorem Changes.of_ref {key : String} {v v' : Value} (hkey : key = "$ref" ∨ key = "ref")
    (h : Follows R (Check.optional Check.text v) (Check.optional Check.text v')) :
    Changes R O I P key v v' where
  ref _ := h
  oneOf hk := by rcases hkey with rfl | rfl <;> simp at hk
  items hk := by rcases hkey with rfl | rfl <;> simp at hk
  properties hk := by rcases hkey with rfl | rfl <;> simp at hk
  leaf hk := by rcases hkey with rfl | rfl <;> simp [leafKeys] at hk

theorem Changes.of_oneOf {key : String} {v v' : Value} (hkey : key = "oneOf" ∨ key = "one_of")
    (h : Follows O (decodeBranches v) (decodeBranches v')) : Changes R O I P key v v' where
  ref hk := by rcases hkey with rfl | rfl <;> simp at hk
  oneOf _ := h
  items hk := by rcases hkey with rfl | rfl <;> simp at hk
  properties hk := by rcases hkey with rfl | rfl <;> simp at hk
  leaf hk := by rcases hkey with rfl | rfl <;> simp [leafKeys] at hk

theorem Changes.of_items {v v' : Value} (h : Follows I (decodeItem v) (decodeItem v')) :
    Changes R O I P "items" v v' where
  ref hk := by simp at hk
  oneOf hk := by simp at hk
  items _ := h
  properties hk := by simp at hk
  leaf hk := by simp [leafKeys] at hk

theorem Changes.of_properties {v v' : Value}
    (h : Follows P (decodeProperties v) (decodeProperties v')) :
    Changes R O I P "properties" v v' where
  ref hk := by simp at hk
  oneOf hk := by simp at hk
  items hk := by simp at hk
  properties _ := h
  leaf hk := by simp [leafKeys] at hk

theorem rel_fieldOf {V : String → Value → Value → Prop} {es es' : List (Value × Value)}
    (h : Forall₂ (fun e e' => e'.1 = e.1 ∧ ∀ key, e.1 = .text key → V key e.2 e'.2) es es')
    (key : String) : Option.Rel (V key) (Value.fieldOf key es) (Value.fieldOf key es') := by
  induction h with
  | nil => exact .none
  | @cons e e' es es' he _ ih =>
    obtain ⟨k, v⟩ := e
    obtain ⟨k', v'⟩ := e'
    obtain ⟨hk, hv⟩ := he
    obtain rfl : k' = k := hk
    by_cases hkey : k' = .text key
    · subst hkey
      rw [Value.fieldOf, Value.fieldOf, if_pos (beq_self_eq_true _), if_pos (beq_self_eq_true _)]
      exact .some (hv key rfl)
    · rw [Value.fieldOf_cons_of_ne hkey, Value.fieldOf_cons_of_ne hkey]
      exact ih

theorem rel_map {γ : Type} {V : Value → Value → Prop} {S : γ → γ → Prop} {x x' : Option Value}
    {g : Value → γ} (h : Option.Rel V x x') (hg : ∀ v v', V v v' → S (g v) (g v')) :
    Option.Rel S (x.map g) (x'.map g) := by
  cases h with
  | none => exact .none
  | some h => exact .some (hg _ _ h)

theorem eq_of_rel {V : Value → Value → Prop} {x x' : Option Value} (h : Option.Rel V x x')
    (hV : ∀ v v', V v v' → v' = v) : x' = x := by
  cases h with
  | none => rfl
  | some h => exact congrArg some (hV _ _ h)

/-- An object follows another one when its entries do. -/
theorem follows_decode_map {es es' : List (Value × Value)} (hr : R none none) (ho : O none none)
    (hi : I none none) (hp : P none none)
    (h : Forall₂ (fun e e' => e'.1 = e.1 ∧ ∀ key, e.1 = .text key → Changes R O I P key e.2 e'.2)
      es es') :
    Follows (Beside R O I P) (decode (.map es)) (decode (.map es')) := by
  have hfield := rel_fieldOf h
  rw [decode, decode, decodeSlots_eq, decodeSlots_eq]
  refine follows_assemble (fun key hk => ?_) (Slots.follows_either ?_ ?_ hr)
    (Slots.follows_either ?_ ?_ ho) (Slots.follows_one ?_ hi) (Slots.follows_one ?_ hp)
  · exact eq_of_rel (hfield key) fun _ _ hc => hc.leaf hk
  · exact rel_map (hfield _) fun _ _ hc => hc.ref (Or.inl rfl)
  · exact rel_map (hfield _) fun _ _ hc => hc.ref (Or.inr rfl)
  · exact rel_map (hfield _) fun _ _ hc => hc.oneOf (Or.inl rfl)
  · exact rel_map (hfield _) fun _ _ hc => hc.oneOf (Or.inr rfl)
  · exact rel_map (hfield _) fun _ _ hc => hc.items rfl
  · exact rel_map (hfield _) fun _ _ hc => hc.properties rfl

end Objects

end Definition

end SchemaDecl
