import SchemaDecl.Definition.Circle
import SchemaDecl.Proofs.Definition.Slots
import SchemaDecl.Proofs.Value.Part

/-! Definitions that lie inside themselves, in data that stands in other data. A definition that decodes
was cut off nowhere, so it is written out in the same way whatever is around the data and however far
it may be written out. -/

namespace SchemaDecl.Definition

open Check (Follows)
open List (Forall₂)
open Value (Part)

theorem forall₂_mapIdx {α β : Type} {R : β → β → Prop} {f g : Nat → α → β} {xs : List α}
    (h : ∀ i, ∀ x ∈ xs, R (f i x) (g i x)) : Forall₂ R (xs.mapIdx f) (xs.mapIdx g) := by
  induction xs generalizing f g with
  | nil => exact .nil
  | cons x xs ih =>
    rw [List.mapIdx_cons, List.mapIdx_cons]
    exact .cons (h 0 x List.mem_cons_self) (ih fun i y hy => h (i + 1) y (List.mem_cons_of_mem _ hy))

/-! ### One step of writing out -/

/-- Properties of a definition when the definitions in them are written out by `write`. -/
def writtenProperties (write : Part → Value) (q : Part) : Value :=
  match q.value with
  | .map ps => .map (ps.mapIdx fun j e => (e.1, write (q.inner j e.2)))
  | w => w

def writtenBranches (write : Part → Value) (q : Part) : Value :=
  match q.value with
  | .list branches => .list (branches.mapIdx fun j w => write (q.inner j w))
  | w => w

/-- What then stands under a key of a definition. -/
def writtenUnder (write : Part → Value) (k : Value) (q : Part) : Value :=
  match k with
  | .text "items" => write q
  | .text "properties" => writtenProperties write q
  | .text "oneOf" | .text "one_of" => writtenBranches write q
  | .text name => if freeKeys.contains name then q.closed else q.value
  | _ => q.value

theorem unrolled_of_map {fuel : Nat} {open_ : List (List Nat)} {p : Part}
    {entries : List (Value × Value)} (ho : open_.contains p.steps = false) (hv : p.value = .map entries) :
    unrolled (fuel + 1) open_ p =
      .map (entries.mapIdx fun i e =>
        (e.1, writtenUnder (unrolled fuel (p.steps :: open_)) e.1 (p.inner i e.2))) := by
  rw [unrolled, ho, hv]
  dsimp only
  rw [if_neg Bool.false_ne_true]
  congr 2
  funext i ⟨k, v⟩
  dsimp only
  split
  case h_1 => rfl
  case h_2 =>
    rw [writtenUnder, writtenProperties]
    cases (p.inner i v).value <;> rfl
  case h_3 | h_4 =>
    rw [writtenUnder, writtenBranches]
    cases (p.inner i v).value <;> rfl
  all_goals rw [writtenUnder] <;> assumption

theorem unrolled_of_not_map {fuel : Nat} {open_ : List (List Nat)} {p : Part}
    (ho : open_.contains p.steps = false) (hv : ∀ entries, p.value ≠ .map entries) :
    unrolled (fuel + 1) open_ p = p.value := by
  rw [unrolled, ho, if_neg Bool.false_ne_true]
  split
  next entries h => exact absurd h (hv entries)
  next => rfl

/-! ### Data in other data -/

/-- The second value is null if the first one is, and decodes to what the first one decodes to. -/
structure Stands (v v' : Value) : Prop where
  null : v = .null → v' = .null
  decode : Follows Eq (decode v) (decode v')

theorem Stands.refl (v : Value) : Stands v v :=
  ⟨id, .refl (fun _ => rfl) _⟩

theorem stands_of_outer (n : Nat) (v : Value) : Stands (.outer n) v :=
  ⟨nofun, nofun⟩

theorem stands_of_map {entries : List (Value × Value)} {v : Value}
    (h : Follows Eq (decode (.map entries)) (decode v)) : Stands (.map entries) v :=
  ⟨nofun, h⟩

theorem Stands.item {v v' : Value} (h : Stands v v') : Follows Eq (decodeItem v) (decodeItem v') := by
  rw [decodeItem_eq, decodeItem_eq]
  by_cases hv : v = .null
  · rw [hv, h.null hv]
    exact .refl (fun _ => rfl) _
  · intro x hx
    rw [Check.optional_of_ne_null hv] at hx
    obtain ⟨d, hd, rfl⟩ := map_eq_ok hx
    obtain ⟨d', hd', rfl⟩ := h.decode d hd
    have hv' : v' ≠ .null := by
      rintro rfl
      cases hd'
    refine ⟨some d, ?_, rfl⟩
    rw [Check.optional_of_ne_null hv', hd']
    rfl

section Writing

variable {write write' : Part → Value} {steps : List Nat} {around : List Value} {q : Part}

theorem follows_branches_written
    (h : ∀ r : Part, r.Sound → Stands (write r) (write' (r.under steps around))) (hq : q.Sound) :
    Follows Eq (decodeBranches (writtenBranches write q))
      (decodeBranches (writtenBranches write' (q.under steps around))) := by
  have hvalue : (q.under steps around).value = q.value := rfl
  unfold writtenBranches
  rw [hvalue]
  split
  next branches hv =>
    have hground : ∀ w ∈ branches, w.isGrounded (q.around.length + 1) := fun w hw =>
      Value.isGrounded_of_mem_items (hv ▸ hq.isGrounded_value) hw
    have hbranches : Forall₂ (fun v v' => Follows Eq (decode v) (decode v'))
        (branches.mapIdx fun j w => write (q.inner j w))
        (branches.mapIdx fun j w => write' ((q.under steps around).inner j w)) :=
      forall₂_mapIdx fun j w hw => by
        rw [Part.inner_under hq (hground w hw)]
        exact (h _ (hq.inner (hground w hw) j)).decode
    have hall := follows_decodeList (R := fun _ => Eq) (T := fun _ => Eq) hbranches rfl
      (fun _ _ d d' ds ds' hd hds => congrArg₂ List.cons hd hds) 0
    rw [decodeBranches, decodeBranches]
    exact hall.map fun ds ds' hds => congrArg some hds
  next => exact .refl (fun _ => rfl) _

theorem follows_properties_written
    (h : ∀ r : Part, r.Sound → Stands (write r) (write' (r.under steps around))) (hq : q.Sound) :
    Follows Eq (decodeProperties (writtenProperties write q))
      (decodeProperties (writtenProperties write' (q.under steps around))) := by
  have hvalue : (q.under steps around).value = q.value := rfl
  unfold writtenProperties
  rw [hvalue]
  split
  next ps hv =>
    have hground : ∀ e ∈ ps, e.2.isGrounded (q.around.length + 1) := fun e he =>
      Value.isGrounded_of_mem_entries (hv ▸ hq.isGrounded_value) he
    have hproperties : Forall₂ (fun e e' => e'.1 = e.1 ∧ Follows Eq (decode e.2) (decode e'.2))
        (ps.mapIdx fun j e => (e.1, write (q.inner j e.2)))
        (ps.mapIdx fun j e => (e.1, write' ((q.under steps around).inner j e.2))) :=
      forall₂_mapIdx fun j e he => by
        rw [Part.inner_under hq (hground e he)]
        exact ⟨rfl, (h _ (hq.inner (hground e he) j)).decode⟩
    have hall := follows_decodeEntries (R := fun _ => Eq) (T := fun _ => Eq) hproperties rfl
      (fun _ _ key d d' ps ps' _ hd hps => by rw [hd, hps])
    rw [decodeProperties, decodeProperties]
    exact hall.map fun ps ps' hps => by rw [hps]
  next => exact .refl (fun _ => rfl) _

/-- What is written under the keys of a definition does not depend on what is around the data. -/
theorem changes_writtenUnder
    (h : ∀ r : Part, r.Sound → Stands (write r) (write' (r.under steps around))) (hq : q.Sound)
    (key : String) :
    Changes Eq Eq Eq Eq key (writtenUnder write (.text key) q)
      (writtenUnder write' (.text key) (q.under steps around)) where
  ref hk := by
    rcases hk with rfl | rfl <;> exact .refl (fun _ => rfl) _
  items hk := by
    subst hk
    exact (h q hq).item
  properties hk := by
    subst hk
    exact follows_properties_written h hq
  oneOf hk := by
    rcases hk with rfl | rfl <;> exact follows_branches_written h hq
  leaf hk := by
    simp only [leafKeys, List.mem_cons, List.not_mem_nil, or_false] at hk
    rcases hk with rfl | rfl | rfl | rfl | rfl | rfl | rfl
    all_goals first | rfl | exact Part.closed_under hq

theorem follows_decode_written
    (h : ∀ r : Part, r.Sound → Stands (write r) (write' (r.under steps around))) (hq : q.Sound)
    {entries : List (Value × Value)} (hv : q.value = .map entries) :
    Follows Eq (decode (.map (entries.mapIdx fun i e => (e.1, writtenUnder write e.1 (q.inner i e.2)))))
      (decode (.map (entries.mapIdx fun i e =>
        (e.1, writtenUnder write' e.1 ((q.under steps around).inner i e.2))))) := by
  have hground : ∀ e ∈ entries, e.2.isGrounded (q.around.length + 1) := fun e he =>
    Value.isGrounded_of_mem_entries (hv ▸ hq.isGrounded_value) he
  have hentries : Forall₂
      (fun e e' => e'.1 = e.1 ∧ ∀ key, e.1 = .text key → Changes Eq Eq Eq Eq key e.2 e'.2)
      (entries.mapIdx fun i e => (e.1, writtenUnder write e.1 (q.inner i e.2)))
      (entries.mapIdx fun i e =>
        (e.1, writtenUnder write' e.1 ((q.under steps around).inner i e.2))) := by
    refine forall₂_mapIdx fun i e he => ⟨rfl, fun key hk => ?_⟩
    obtain ⟨k, v⟩ := e
    obtain rfl : k = .text key := hk
    rw [Part.inner_under hq (hground _ he)]
    exact changes_writtenUnder h (hq.inner (hground _ he) i) key
  refine (follows_decode_map rfl rfl rfl rfl hentries).mono fun d d' hd => ?_
  exact (hd.eq_iff.2 ⟨hd.ref.symm, hd.oneOf.symm, hd.items.symm, hd.properties.symm⟩).symm

end Writing

/-- A definition decodes to the same in data that stands in other data, and also when it may be written
out further. -/
theorem stands_unrolled {fuel fuel' : Nat} (hf : fuel ≤ fuel') (open_ : List (List Nat)) {p : Part}
    (hp : p.Sound) (steps : List Nat) (around : List Value) :
    Stands (unrolled fuel open_ p)
      (unrolled fuel' (open_.map (· ++ steps)) (p.under steps around)) := by
  induction fuel generalizing fuel' open_ p with
  | zero => exact stands_of_outer 0 _
  | succ fuel ih =>
    obtain ⟨fuel', rfl⟩ := Nat.exists_eq_add_of_lt hf
    by_cases ho : open_.contains p.steps = true
    · rw [unrolled, if_pos ho]
      exact stands_of_outer 0 _
    · have ho : open_.contains p.steps = false := by simpa using ho
      have ho' : (open_.map (· ++ steps)).contains (p.under steps around).steps = false := by
        simpa [Part.under] using ho
      have hwrite : ∀ r : Part, r.Sound →
          Stands (unrolled fuel (p.steps :: open_) r)
            (unrolled (fuel + fuel') ((p.steps :: open_).map (· ++ steps)) (r.under steps around)) :=
        fun r hr => ih (Nat.le_add_right _ _) (p.steps :: open_) hr
      have hvalue : (p.under steps around).value = p.value := rfl
      by_cases hv : ∃ entries, p.value = .map entries
      · obtain ⟨entries, hv⟩ := hv
        rw [unrolled_of_map ho hv, unrolled_of_map ho' hv]
        exact stands_of_map (follows_decode_written hwrite hp hv)
      · have hv := not_exists.1 hv
        rw [unrolled_of_not_map ho hv, unrolled_of_not_map ho' hv, hvalue]
        exact .refl _

end SchemaDecl.Definition
