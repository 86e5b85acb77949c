import SchemaDecl.Proofs.Definition.Keys
import SchemaDecl.Proofs.Definition.Slots

/-! Definitions without the keys that they are not described with. Leaving such keys out never makes a
definition invalid, and it leaves the definition as it is unless one of the two keys that name a part
once more stands in for the key of that part. -/

namespace SchemaDecl.Definition

open Check (Follows)
open List (Forall₂)

/-- The keys that definitions are described with. -/
def supportedKeys : List String :=
  ["type", "$ref", "oneOf", "enum", "items", "properties", "required", "example", "format",
    "description", "default"]

mutual

/-- The data of a definition with the supported keys alone, at every depth. -/
def pruned : Value → Value
  | .map entries => .map (prunedEntries entries)
  | v => v

def prunedEntries : List (Value × Value) → List (Value × Value)
  | [] => []
  | (k, v) :: rest =>
    match k with
    | .text "items" => (k, pruned v) :: prunedEntries rest
    | .text "oneOf" => (k, prunedBranches v) :: prunedEntries rest
    | .text "properties" => (k, prunedProperties v) :: prunedEntries rest
    | .text key =>
      if supportedKeys.contains key then (k, v) :: prunedEntries rest else prunedEntries rest
    | _ => prunedEntries rest

def prunedBranches : Value → Value
  | .list vs => .list (prunedList vs)
  | v => v

def prunedList : List Value → List Value
  | [] => []
  | v :: rest => pruned v :: prunedList rest

def prunedProperties : Value → Value
  | .map entries => .map (prunedValues entries)
  | v => v

def prunedValues : List (Value × Value) → List (Value × Value)
  | [] => []
  | (k, v) :: rest => (k, pruned v) :: prunedValues rest

end

theorem prunedList_eq_map (vs : List Value) : prunedList vs = vs.map pruned := by
  induction vs with
  | nil => rfl
  | cons v vs ih => rw [prunedList, ih, List.map_cons]

theorem prunedValues_eq_map (es : List (Value × Value)) :
    prunedValues es = es.map fun e => (e.1, pruned e.2) := by
  induction es with
  | nil => rfl
  | cons e es ih => rw [prunedValues, ih, List.map_cons]

/-! ### What is left under a key -/

/-- What is left of the value under a supported key. -/
def prunedUnder (key : String) (v : Value) : Value :=
  if key = "items" then pruned v
  else if key = "oneOf" then prunedBranches v
  else if key = "properties" then prunedProperties v
  else v

theorem prunedEntries_cons_text (key : String) (v : Value) (rest : List (Value × Value)) :
    prunedEntries ((.text key, v) :: rest) =
      if key ∈ supportedKeys then (.text key, prunedUnder key v) :: prunedEntries rest
      else prunedEntries rest := by
  rw [prunedEntries.eq_def]
  dsimp only
  split
  next h =>
    cases h
    rfl
  next h =>
    cases h
    rfl
  next h =>
    cases h
    rfl
  next s hi ho hp h =>
    obtain rfl : key = s := Value.text.inj h
    rw [prunedUnder, if_neg hi, if_neg ho, if_neg hp]
    simp only [List.contains_iff_mem]
  next h => exact absurd rfl (h key)

theorem fieldOf_prunedEntries (key : String) (entries : List (Value × Value)) :
    Value.fieldOf key (prunedEntries entries) =
      if key ∈ supportedKeys then (Value.fieldOf key entries).map (prunedUnder key) else none := by
  induction entries with
  | nil =>
    rw [prunedEntries, Value.fieldOf]
    split <;> rfl
  | cons e rest ih =>
    obtain ⟨k, v⟩ := e
    by_cases hk : k = .text key
    · subst hk
      rw [prunedEntries_cons_text]
      by_cases hs : key ∈ supportedKeys
      · simp [hs, Value.fieldOf]
      · rw [if_neg hs, if_neg hs, ih, if_neg hs]
    · rw [Value.fieldOf_cons_of_ne hk, ← ih]
      cases k with
      | text s =>
        rw [prunedEntries_cons_text]
        split
        · exact Value.fieldOf_cons_of_ne hk
        · rfl
      | _ => rfl

theorem fieldOf_prunedEntries_of_leaf {key : String} (hk : key ∈ leafKeys ∨ key = "$ref")
    (entries : List (Value × Value)) :
    Value.fieldOf key (prunedEntries entries) = Value.fieldOf key entries := by
  have hunder : key ∈ supportedKeys ∧ prunedUnder key = id := by
    simp only [leafKeys, List.mem_cons, List.not_mem_nil, or_false] at hk
    rcases hk with (rfl | rfl | rfl | rfl | rfl | rfl | rfl) | rfl <;> exact ⟨by decide, rfl⟩
  rw [fieldOf_prunedEntries, if_pos hunder.1, hunder.2, Option.map_id, id]

theorem fieldOf_prunedEntries_of_name {key : String} (hk : key = "ref" ∨ key = "one_of")
    (entries : List (Value × Value)) : Value.fieldOf key (prunedEntries entries) = none := by
  rw [fieldOf_prunedEntries, if_neg]
  rcases hk with rfl | rfl <;> decide

/-! ### Data in JSON -/

theorem mem_prunedEntries {e : Value × Value} {entries : List (Value × Value)}
    (h : e ∈ prunedEntries entries) :
    ∃ x ∈ entries, ∃ key, x.1 = .text key ∧ e = (.text key, prunedUnder key x.2) := by
  induction entries with
  | nil => cases h
  | cons x rest ih =>
    obtain ⟨k, v⟩ := x
    have hrest : e ∈ prunedEntries rest →
        ∃ x ∈ (k, v) :: rest, ∃ key, x.1 = .text key ∧ e = (.text key, prunedUnder key x.2) := by
      intro he
      obtain ⟨x, hx, hkey⟩ := ih he
      exact ⟨x, List.mem_cons_of_mem _ hx, hkey⟩
    cases k with
    | text key =>
      rw [prunedEntries_cons_text] at h
      split at h
      · rcases List.mem_cons.1 h with rfl | h
        · exact ⟨_, List.mem_cons_self, key, rfl, rfl⟩
        · exact hrest h
      · exact hrest h
    | _ => exact hrest h

theorem keys_prunedEntries_sublist (entries : List (Value × Value)) :
    ((prunedEntries entries).map Prod.fst).Sublist (entries.map Prod.fst) := by
  induction entries with
  | nil => exact .slnil
  | cons x rest ih =>
    obtain ⟨k, v⟩ := x
    cases k with
    | text key =>
      rw [prunedEntries_cons_text]
      split
      · exact ih.cons_cons _
      · exact ih.cons _
    | _ => exact ih.cons _

/-- What is left of data as JSON holds it is such data. -/
theorem isJson_pruned {v : Value} (h : v.IsJson) :
    (pruned v).IsJson ∧ (prunedBranches v).IsJson ∧ (prunedProperties v).IsJson := by
  induction h with
  | null => exact ⟨.null, .null, .null⟩
  | bool b => exact ⟨.bool b, .bool b, .bool b⟩
  | int h => exact ⟨.int h, .int h, .int h⟩
  | float x => exact ⟨.float x, .float x, .float x⟩
  | text s => exact ⟨.text s, .text s, .text s⟩
  | @list vs hv ih =>
    refine ⟨.list hv, ?_, .list hv⟩
    rw [prunedBranches, prunedList_eq_map]
    exact .list (List.forall_mem_map.2 fun v hm => (ih v hm).1)
  | @map entries hk hn hv ih =>
    refine ⟨?_, .map hk hn hv, ?_⟩
    · have hmem : ∀ e ∈ prunedEntries entries, Value.IsJsonEntry e := by
        intro e he
        obtain ⟨x, hx, key, -, rfl⟩ := mem_prunedEntries he
        refine ⟨⟨key, rfl⟩, ?_⟩
        dsimp only [prunedUnder]
        obtain ⟨hitem, hbranches, hproperties⟩ := ih x hx
        split_ifs
        · exact hitem
        · exact hbranches
        · exact hproperties
        · exact hv x hx
      rw [pruned]
      exact Value.isJson_map_iff.2 ⟨hn.sublist (keys_prunedEntries_sublist entries), hmem⟩
    · rw [prunedProperties, prunedValues_eq_map]
      refine .map (List.forall_mem_map.2 hk) ?_ (List.forall_mem_map.2 fun e he => (ih e he).1)
      rwa [List.map_map]

/-! ### Names in the place of keys -/

/-- The second value is that of a definition that lies in the first one, or is the first one itself. -/
inductive Node : Value → Value → Prop
  | self (v : Value) : Node v v
  | items {entries : List (Value × Value)} {x w : Value}
      (h : Value.fieldOf "items" entries = some x) (hw : Node x w) : Node (.map entries) w
  | branch {entries : List (Value × Value)} {vs : List Value} {x w : Value}
      (h : Value.fieldOf "oneOf" entries = some (.list vs)) (hx : x ∈ vs) (hw : Node x w) :
      Node (.map entries) w
  | property {entries ps : List (Value × Value)} {e : Value × Value} {w : Value}
      (h : Value.fieldOf "properties" entries = some (.map ps)) (he : e ∈ ps) (hw : Node e.2 w) :
      Node (.map entries) w

/-- A name says nothing where its key is missing. -/
def Silent (key name : String) (entries : List (Value × Value)) : Prop :=
  Value.fieldOf key entries = none →
    Value.fieldOf name entries = none ∨ Value.fieldOf name entries = some .null

/-- In no definition does a name stand in for the key of a part. -/
def Unaliased (v : Value) : Prop :=
  ∀ entries, Node v (.map entries) → Silent "$ref" "ref" entries ∧ Silent "oneOf" "one_of" entries

theorem unaliased_map_iff {entries : List (Value × Value)} :
    Unaliased (.map entries) ↔
      (Silent "$ref" "ref" entries ∧ Silent "oneOf" "one_of" entries) ∧
      (∀ vs, Value.fieldOf "oneOf" entries = some (.list vs) → ∀ x ∈ vs, Unaliased x) ∧
      (∀ x, Value.fieldOf "items" entries = some x → Unaliased x) ∧
      ∀ ps, Value.fieldOf "properties" entries = some (.map ps) → ∀ e ∈ ps, Unaliased e.2 := by
  constructor
  · intro h
    exact ⟨h entries (.self _), fun vs hvs x hx es hes => h es (.branch hvs hx hes),
      fun x hx es hes => h es (.items hx hes), fun ps hps e he es hes => h es (.property hps he hes)⟩
  · rintro ⟨hself, hbranch, hitems, hproperty⟩ es hes
    cases hes with
    | self => exact hself
    | items hx hes => exact hitems _ hx es hes
    | branch hvs hx hes => exact hbranch _ hvs _ hx es hes
    | property hps he hes => exact hproperty _ hps _ he es hes

/-! ### Decoding -/

/-- When the second key goes, the part stays as it is under the first one, and is missing otherwise. -/
theorem follows_either_pruned {α : Type} {g g' : Value → Check (Option α)} {P : Value → Prop}
    {x y : Option Value}
    (hx : ∀ v, x = some v → Follows (fun z z' => z' = z ↔ P v) (g v) (g' v))
    (hy : ∀ w z, g w = .ok z → (z = none ↔ w = .null)) (a b : String) :
    Follows (fun z z' => z' = z ↔ (∀ v, x = some v → P v) ∧ (x = none → y = none ∨ y = some .null))
      (Slots.either a b (x.map g) (y.map g)) (Slots.either a b (x.map g') none) := by
  cases x with
  | some v =>
    refine ((hx v rfl).within _).mono fun z z' hz => ?_
    simpa using hz
  | none =>
    intro z hz
    refine ⟨none, rfl, ?_⟩
    cases y with
    | none =>
      cases hz
      simp
    | some w =>
      have hw := hy w z (Check.within_eq_ok hz)
      simp only [reduceCtorEq, false_implies, implies_true, true_and, forall_const, false_or,
        Option.some.injEq]
      rw [← hw, eq_comm]

theorem follows_one_pruned {α : Type} {g g' : Value → Check (Option α)} {P : Value → Prop}
    {x : Option Value}
    (hx : ∀ v, x = some v → Follows (fun z z' => z' = z ↔ P v) (g v) (g' v)) (key : String) :
    Follows (fun z z' => z' = z ↔ ∀ v, x = some v → P v) (Slots.one key none (x.map g))
      (Slots.one key none (x.map g')) := by
  cases x with
  | some v =>
    refine ((hx v rfl).within _).mono fun z z' hz => ?_
    simpa using hz
  | none => exact .refl (fun z => by simp) _

theorem optional_eq_none_iff {α : Type} {f : Value → Check α} {v : Value} {z : Option α}
    (h : Check.optional f v = .ok z) : z = none ↔ v = .null := by
  unfold Check.optional at h
  split at h
  next =>
    cases h
    simp
  next hv =>
    obtain ⟨x, -, rfl⟩ := map_eq_ok h
    simpa using hv

theorem decodeBranches_eq_none_iff {v : Value} {z : Option (List Definition)}
    (h : decodeBranches v = .ok z) : z = none ↔ v = .null := by
  rw [decodeBranches.eq_def] at h
  split at h
  next =>
    cases h
    simp
  next =>
    obtain ⟨x, -, rfl⟩ := map_eq_ok h
    simp
  next =>
    obtain ⟨x, -, rfl⟩ := map_eq_ok h
    simp
  next => cases h

/-- What is left of decoded data decodes where the data does, and to the same where no name stands in
for a key. -/
structure Pruning (v : Value) : Prop where
  definition : Follows (fun d d' => d' = d ↔ Unaliased v) (decode v) (decode (pruned v))
  branches : Follows (fun o o' => o' = o ↔ ∀ vs, v = .list vs → ∀ x ∈ vs, Unaliased x)
    (decodeBranches v) (decodeBranches (prunedBranches v))
  properties : Follows (fun o o' => o' = o ↔ ∀ ps, v = .map ps → ∀ e ∈ ps, Unaliased e.2)
    (decodeProperties v) (decodeProperties (prunedProperties v))

theorem unaliased_of_not_map {v : Value} (h : ∀ entries, v ≠ .map entries) : Unaliased v := by
  intro entries hv
  cases hv with
  | self => exact absurd rfl (h entries)
  | _ => exact absurd rfl (h _)

theorem Pruning.item {v : Value} (h : Pruning v) :
    Follows (fun o o' => o' = o ↔ Unaliased v) (decodeItem v) (decodeItem (pruned v)) := by
  rw [decodeItem_eq, decodeItem_eq]
  by_cases hv : v = .null
  · subst hv
    have hnone : Unaliased .null := unaliased_of_not_map fun _ => nofun
    exact .refl (fun o => by simp [hnone]) _
  · have hv' : pruned v ≠ .null := by
      cases v with
      | null => exact absurd rfl hv
      | _ => exact nofun
    rw [Check.optional_of_ne_null hv, Check.optional_of_ne_null hv']
    refine h.definition.map fun d d' hd => ?_
    rw [← hd, Option.some.injEq]

theorem pruning_null : Pruning .null where
  definition := nofun
  branches := .refl (fun o => by simp) _
  properties := .refl (fun o => by simp) _

theorem pruning_list {vs : List Value} (h : ∀ v ∈ vs, Pruning v) : Pruning (.list vs) where
  definition := nofun
  properties := nofun
  branches := by
    have hvs : Forall₂ (fun v v' => Follows (fun d d' => d' = d ↔ Unaliased v) (decode v) (decode v'))
        vs (vs.map pruned) :=
      List.forall₂_map_right_iff.2 (List.forall₂_same.2 fun v hv => (h v hv).definition)
    have hlist : Follows (fun ds ds' => ds' = ds ↔ ∀ x ∈ vs, Unaliased x) (decodeList 0 vs)
        (decodeList 0 (vs.map pruned)) := by
      refine follows_decodeList (R := fun v d d' => d' = d ↔ Unaliased v)
        (T := fun vs ds ds' => ds' = ds ↔ ∀ x ∈ vs, Unaliased x) hvs (by simp) ?_ 0
      intro v vs d d' ds ds' hd hds
      rw [List.cons.injEq, hd, hds, List.forall_mem_cons]
    rw [prunedBranches, prunedList_eq_map, decodeBranches, decodeBranches]
    refine hlist.map fun ds ds' hds => ?_
    simp [hds]

/-! ### Objects -/

section Objects

variable {entries : List (Value × Value)}

theorem follows_ref_pruned :
    Follows (fun z z' => z' = z ↔ Silent "$ref" "ref" entries)
      (Slots.either "$ref" "ref" (slotsOf fun key => Value.fieldOf key entries).ref
        (slotsOf fun key => Value.fieldOf key entries).refName)
      (Slots.either "$ref" "ref" (slotsOf fun key => Value.fieldOf key (prunedEntries entries)).ref
        (slotsOf fun key => Value.fieldOf key (prunedEntries entries)).refName) := by
  simp only [slotsOf, fieldOf_prunedEntries_of_leaf (Or.inr rfl),
    fieldOf_prunedEntries_of_name (Or.inl rfl), Option.map_none]
  refine (follows_either_pruned (P := fun _ => True) (fun v _ => .refl (fun z => by simp) _)
    (fun w z hz => optional_eq_none_iff hz) "$ref" "ref").mono fun z z' hz => ?_
  rw [hz]
  simp [Silent]

theorem follows_oneOf_pruned (h : ∀ e ∈ entries, Pruning e.2) :
    Follows (fun z z' => z' = z ↔
        (∀ vs, Value.fieldOf "oneOf" entries = some (.list vs) → ∀ x ∈ vs, Unaliased x) ∧
          Silent "oneOf" "one_of" entries)
      (Slots.either "oneOf" "one_of" (slotsOf fun key => Value.fieldOf key entries).oneOf
        (slotsOf fun key => Value.fieldOf key entries).oneOfName)
      (Slots.either "oneOf" "one_of"
        (slotsOf fun key => Value.fieldOf key (prunedEntries entries)).oneOf
        (slotsOf fun key => Value.fieldOf key (prunedEntries entries)).oneOfName) := by
  have hpruned : Value.fieldOf "oneOf" (prunedEntries entries) =
      (Value.fieldOf "oneOf" entries).map prunedBranches := by
    rw [fieldOf_prunedEntries, if_pos (by decide)]
    rfl
  simp only [slotsOf, hpruned, fieldOf_prunedEntries_of_name (Or.inr rfl), Option.map_none,
    Option.map_map]
  refine (follows_either_pruned (P := fun v => ∀ vs, v = .list vs → ∀ x ∈ vs, Unaliased x)
    (fun v hv => (h _ (Value.mem_of_fieldOf hv)).branches)
    (fun w z hz => decodeBranches_eq_none_iff hz) "oneOf" "one_of").mono fun z z' hz => ?_
  rw [hz]
  refine and_congr ⟨fun hall vs hvs => hall _ hvs vs rfl, ?_⟩ Iff.rfl
  rintro hall v hv vs rfl
  exact hall vs hv

theorem follows_items_pruned (h : ∀ e ∈ entries, Pruning e.2) :
    Follows (fun z z' => z' = z ↔ ∀ x, Value.fieldOf "items" entries = some x → Unaliased x)
      (Slots.one "items" none (slotsOf fun key => Value.fieldOf key entries).items)
      (Slots.one "items" none
        (slotsOf fun key => Value.fieldOf key (prunedEntries entries)).items) := by
  have hpruned : Value.fieldOf "items" (prunedEntries entries) =
      (Value.fieldOf "items" entries).map pruned := by
    rw [fieldOf_prunedEntries, if_pos (by decide)]
    rfl
  simp only [slotsOf, hpruned, Option.map_map]
  exact follows_one_pruned (fun v hv => (h _ (Value.mem_of_fieldOf hv)).item) "items"

theorem follows_properties_pruned (h : ∀ e ∈ entries, Pruning e.2) :
    Follows (fun z z' => z' = z ↔
        ∀ ps, Value.fieldOf "properties" entries = some (.map ps) → ∀ e ∈ ps, Unaliased e.2)
      (Slots.one "properties" none (slotsOf fun key => Value.fieldOf key entries).properties)
      (Slots.one "properties" none
        (slotsOf fun key => Value.fieldOf key (prunedEntries entries)).properties) := by
  have hpruned : Value.fieldOf "properties" (prunedEntries entries) =
      (Value.fieldOf "properties" entries).map prunedProperties := by
    rw [fieldOf_prunedEntries, if_pos (by decide)]
    rfl
  simp only [slotsOf, hpruned, Option.map_map]
  refine (follows_one_pruned (P := fun v => ∀ ps, v = .map ps → ∀ e ∈ ps, Unaliased e.2)
    (fun v hv => (h _ (Value.mem_of_fieldOf hv)).properties) "properties").mono fun z z' hz => ?_
  rw [hz]
  refine ⟨fun hall ps hps => hall _ hps ps rfl, ?_⟩
  rintro hall v hv ps rfl
  exact hall ps hv

/-- The properties left of an object whose keys are texts of their own. -/
theorem follows_distinct_pruned (hk : ∀ e ∈ entries, ∃ s, e.1 = .text s)
    (hn : (entries.map Prod.fst).Nodup) (h : ∀ e ∈ entries, Pruning e.2) :
    Follows (fun ps ps' => distinct ps' = distinct ps ↔ ∀ e ∈ entries, Unaliased e.2)
      (decodeEntries entries) (decodeEntries (prunedValues entries)) := by
  have hes : Forall₂ (fun e e' => e'.1 = e.1 ∧
      Follows (fun d d' => d' = d ↔ Unaliased e.2) (decode e.2) (decode e'.2)) entries
      (entries.map fun e => (e.1, pruned e.2)) :=
    List.forall₂_map_right_iff.2 (List.forall₂_same.2 fun e he => ⟨rfl, (h e he).definition⟩)
  -- the keys stay what they are, so with keys of their own all properties count on both sides
  have hall := follows_decodeEntries (R := fun v d d' => d' = d ↔ Unaliased v)
    (T := fun es ps ps' => (∀ e ∈ es, ∃ s, e.1 = .text s) →
      ps.map (fun p => Value.text p.1) = es.map Prod.fst ∧
        ps'.map Prod.fst = ps.map Prod.fst ∧ (ps' = ps ↔ ∀ e ∈ es, Unaliased e.2)) hes
    (by simp) (by
      intro e es key d d' ps ps' htext hd hps hk
      obtain ⟨⟨s, hs⟩, hrest⟩ := List.forall_mem_cons.1 hk
      obtain ⟨hkeys, hsame, hiff⟩ := hps hrest
      rw [hs] at htext
      obtain rfl : s = key := Except.ok.inj htext
      refine ⟨by rw [List.map_cons, List.map_cons, hkeys, hs], by rw [List.map_cons, List.map_cons, hsame],
        ?_⟩
      rw [List.cons.injEq, Prod.mk.injEq, hd, hiff, List.forall_mem_cons, and_iff_right rfl])
  rw [prunedValues_eq_map]
  refine hall.mono fun ps ps' hps => ?_
  obtain ⟨hkeys, hsame, hiff⟩ := hps hk
  have hnodup : (ps.map Prod.fst).Nodup := by
    rw [← hkeys] at hn
    refine List.Nodup.of_map Value.text ?_
    rwa [List.map_map]
  rw [distinct_of_nodup hnodup, distinct_of_nodup (hsame ▸ hnodup), hiff]

theorem pruning_map (hk : ∀ e ∈ entries, ∃ s, e.1 = .text s)
    (hn : (entries.map Prod.fst).Nodup) (h : ∀ e ∈ entries, Pruning e.2) :
    Pruning (.map entries) where
  branches := nofun
  definition := by
    rw [pruned, decode, decode, decodeSlots_eq, decodeSlots_eq]
    refine (follows_assemble (fun key hk => fieldOf_prunedEntries_of_leaf (Or.inl hk) entries)
      follows_ref_pruned (follows_oneOf_pruned h) (follows_items_pruned h)
      (follows_properties_pruned h)).mono fun d d' hd => ?_
    rw [hd.eq_iff, hd.ref, hd.oneOf, hd.items, hd.properties, unaliased_map_iff]
    tauto
  properties := by
    rw [prunedProperties, decodeProperties, decodeProperties]
    refine (follows_distinct_pruned hk hn h).map fun ps ps' hps => ?_
    simp [hps]

end Objects

theorem pruning_of_isJson {v : Value} (h : v.IsJson) : Pruning v := by
  induction h with
  | null => exact pruning_null
  | list _ ih => exact pruning_list ih
  | map hk hn _ ih => exact pruning_map hk hn ih
  | _ => exact ⟨nofun, nofun, nofun⟩

end SchemaDecl.Definition
