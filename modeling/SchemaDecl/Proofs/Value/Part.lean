import SchemaDecl.Value.Part

/-! Parts of data that stands in other data. As long as the marks in the data stand for collections of
its own, its parts are the same whatever is around it, but for the way to them. -/

namespace SchemaDecl.Value

mutual

/-- Whether every mark in a value with `n` collections around it stands for one of these or for a
collection in the value. -/
def isGrounded (n : Nat) : Value → Bool
  | .outer k => k < n
  | .list items => itemsGrounded (n + 1) items
  | .map entries => entriesGrounded (n + 1) entries
  | _ => true

def itemsGrounded (n : Nat) : List Value → Bool
  | [] => true
  | v :: rest => isGrounded n v && itemsGrounded n rest

def entriesGrounded (n : Nat) : List (Value × Value) → Bool
  | [] => true
  | (_, v) :: rest => isGrounded n v && entriesGrounded n rest

end

mutual

/-- Data without circles has no marks. -/
theorem isGrounded_of_acyclic {n : Nat} : ∀ v : Value, v.isCircular = false → v.isGrounded n
  | .outer k, h => by
    rw [isCircular] at h
    cases h
  | .list items, h => by
    rw [isCircular] at h
    rw [isGrounded, itemsGrounded_of_acyclic items h]
  | .map entries, h => by
    rw [isCircular] at h
    rw [isGrounded, entriesGrounded_of_acyclic entries h]
  | .null, _ | .bool _, _ | .int _, _ | .float _, _ | .text _, _ | .date _, _ | .time _, _
  | .bytes _, _ | .set _, _ => by simp only [isGrounded]

theorem itemsGrounded_of_acyclic {n : Nat} :
    ∀ items : List Value, anyCircular items = false → itemsGrounded n items
  | [], _ => by rw [itemsGrounded]
  | v :: rest, h => by
    rw [anyCircular, Bool.or_eq_false_iff] at h
    rw [itemsGrounded, isGrounded_of_acyclic v h.1, itemsGrounded_of_acyclic rest h.2]
    rfl

theorem entriesGrounded_of_acyclic {n : Nat} :
    ∀ entries : List (Value × Value), anyEntryCircular entries = false → entriesGrounded n entries
  | [], _ => by rw [entriesGrounded]
  | (k, v) :: rest, h => by
    rw [anyEntryCircular, Bool.or_eq_false_iff] at h
    rw [entriesGrounded, isGrounded_of_acyclic v h.1, entriesGrounded_of_acyclic rest h.2]
    rfl

end

theorem isGrounded_of_mem_items {n : Nat} {items : List Value}
    (h : (Value.list items).isGrounded n) {v : Value} (hv : v ∈ items) : v.isGrounded (n + 1) := by
  rw [isGrounded] at h
  induction items with
  | nil => cases hv
  | cons w items ih =>
    rw [itemsGrounded, Bool.and_eq_true] at h
    rcases List.mem_cons.1 hv with rfl | hv
    · exact h.1
    · exact ih h.2 hv

theorem isGrounded_of_mem_entries {n : Nat} {entries : List (Value × Value)}
    (h : (Value.map entries).isGrounded n) {e : Value × Value} (he : e ∈ entries) :
    e.2.isGrounded (n + 1) := by
  rw [isGrounded] at h
  induction entries with
  | nil => cases he
  | cons x entries ih =>
    rw [entriesGrounded, Bool.and_eq_true] at h
    rcases List.mem_cons.1 he with rfl | he
    · exact h.1
    · exact ih h.2 he

mutual

/-- Data is written out by the collections that its marks stand for alone. -/
theorem writeOut_append {xs : List Value} (ys : List Value) {depth : Nat} :
    ∀ v : Value, v.isGrounded (xs.length + depth) → v.writeOut (xs ++ ys) depth = v.writeOut xs depth
  | .outer k, h => by
    have hk : k < xs.length + depth := by simpa [isGrounded] using h
    rw [writeOut, writeOut]
    split
    · rfl
    · rw [List.getElem?_append_left (by omega)]
  | .list items, h => by
    rw [isGrounded] at h
    rw [writeOut, writeOut, writeOutItems_append ys items h]
  | .map entries, h => by
    rw [isGrounded] at h
    rw [writeOut, writeOut, writeOutEntries_append ys entries h]
  | .null, _ | .bool _, _ | .int _, _ | .float _, _ | .text _, _ | .date _, _ | .time _, _
  | .bytes _, _ | .set _, _ => by simp only [writeOut]

theorem writeOutItems_append {xs : List Value} (ys : List Value) {depth : Nat} :
    ∀ items : List Value, itemsGrounded (xs.length + depth) items →
      writeOutItems (xs ++ ys) depth items = writeOutItems xs depth items
  | [], _ => by rw [writeOutItems, writeOutItems]
  | v :: rest, h => by
    rw [itemsGrounded, Bool.and_eq_true] at h
    rw [writeOutItems, writeOutItems, writeOut_append ys v h.1, writeOutItems_append ys rest h.2]

theorem writeOutEntries_append {xs : List Value} (ys : List Value) {depth : Nat} :
    ∀ entries : List (Value × Value), entriesGrounded (xs.length + depth) entries →
      writeOutEntries (xs ++ ys) depth entries = writeOutEntries xs depth entries
  | [], _ => by rw [writeOutEntries, writeOutEntries]
  | (k, v) :: rest, h => by
    rw [entriesGrounded, Bool.and_eq_true] at h
    rw [writeOutEntries, writeOutEntries, writeOut_append ys v h.1,
      writeOutEntries_append ys rest h.2]

end

namespace Part

/-- The part of data that stands at the end of `steps` in the collections `around`. -/
def under (p : Part) (steps : List Nat) (around : List Value) : Part :=
  ⟨p.value, p.steps ++ steps, p.around ++ around⟩

/-- Each collection around a part was entered by one step, and all marks in them stand for collections
around the part. -/
structure Sound (p : Part) : Prop where
  length_steps : p.steps.length = p.around.length
  grounded : ∀ v rest, v :: rest <:+ p.value :: p.around → v.isGrounded rest.length

variable {p : Part} {v : Value} {steps : List Nat} {around : List Value}

theorem sound_whole (h : v.isGrounded 0) : Sound ⟨v, [], []⟩ where
  length_steps := rfl
  grounded w rest hw := by
    rcases List.suffix_cons_iff.1 hw with hw | hw
    · cases hw
      exact h
    · cases List.suffix_nil.1 hw

theorem Sound.isGrounded_value (h : p.Sound) : p.value.isGrounded p.around.length :=
  h.grounded _ _ List.suffix_rfl

theorem inner_of_ne_outer (h : ∀ n, v ≠ .outer n) (i : Nat) :
    p.inner i v = ⟨v, i :: p.steps, p.value :: p.around⟩ := by
  cases v with
  | outer n => exact absurd rfl (h n)
  | _ => rfl

/-- A mark for a collection around it leads back to that collection. -/
theorem inner_outer {n : Nat} (h : n < (p.value :: p.around).length) (i : Nat) :
    p.inner i (.outer n) = ⟨(p.value :: p.around)[n], p.steps.drop n, p.around.drop n⟩ := by
  rw [inner, List.getElem?_eq_getElem h]

theorem Sound.inner (h : p.Sound) (hv : v.isGrounded (p.around.length + 1)) (i : Nat) :
    (p.inner i v).Sound := by
  by_cases ho : ∃ n, v = .outer n
  · obtain ⟨n, rfl⟩ := ho
    have hn : n < (p.value :: p.around).length := by simpa [isGrounded] using hv
    rw [inner_outer hn]
    refine ⟨by rw [List.length_drop, List.length_drop, h.length_steps], fun w rest hw => ?_⟩
    refine h.grounded w rest (hw.trans ?_)
    have hdrop := List.drop_eq_getElem_cons hn
    rw [List.drop_succ_cons] at hdrop
    rw [← hdrop]
    exact List.drop_suffix _ _
  · rw [inner_of_ne_outer (not_exists.1 ho)]
    refine ⟨by rw [List.length_cons, List.length_cons, h.length_steps], fun w rest hw => ?_⟩
    rcases List.suffix_cons_iff.1 hw with hw | hw
    · cases hw
      exact hv
    · exact h.grounded w rest hw

theorem inner_under (h : p.Sound) (hv : v.isGrounded (p.around.length + 1)) (i : Nat) :
    (p.under steps around).inner i v = (p.inner i v).under steps around := by
  by_cases ho : ∃ n, v = .outer n
  · obtain ⟨n, rfl⟩ := ho
    have hn : n < (p.value :: p.around).length := by simpa [isGrounded] using hv
    have hn' : n < (p.value :: (p.around ++ around)).length := by
      rw [← List.cons_append, List.length_append]
      omega
    have hle : n ≤ p.around.length := by simpa [Nat.lt_succ_iff] using hn
    have houter : (p.under steps around).inner i (.outer n) =
        ⟨(p.value :: (p.around ++ around))[n], (p.steps ++ steps).drop n,
          (p.around ++ around).drop n⟩ := inner_outer hn' i
    rw [houter, inner_outer hn]
    simp only [← List.cons_append, under]
    rw [List.getElem_append_left hn, List.drop_append_of_le_length hle,
      List.drop_append_of_le_length (h.length_steps ▸ hle)]
  · rw [inner_of_ne_outer (not_exists.1 ho), inner_of_ne_outer (not_exists.1 ho)]
    rfl

theorem length_closedAll (xs : List Value) : (closedAll xs).length = xs.length := by
  induction xs with
  | nil => rfl
  | cons x xs ih => rw [closedAll, List.length_cons, ih, List.length_cons]

theorem closedAll_append {xs : List Value}
    (h : ∀ v rest, v :: rest <:+ xs → v.isGrounded rest.length) (ys : List Value) :
    closedAll (xs ++ ys) = closedAll xs ++ closedAll ys := by
  induction xs with
  | nil => rfl
  | cons x xs ih =>
    have hx : x.isGrounded ((closedAll xs).length + 0) := by
      rw [length_closedAll]
      exact h x xs List.suffix_rfl
    rw [List.cons_append, closedAll, closedAll, List.cons_append,
      ih fun v rest hv => h v rest (hv.trans (List.suffix_cons x xs)), writeOut_append _ x hx]

/-- What a part refers to lies in its data. -/
theorem closed_under (h : p.Sound) : (p.under steps around).closed = p.closed := by
  have hvalue : p.value.isGrounded ((closedAll p.around).length + 0) := by
    rw [length_closedAll]
    exact h.isGrounded_value
  have haround : closedAll (p.around ++ around) = closedAll p.around ++ closedAll around :=
    closedAll_append (fun v rest hv => h.grounded v rest (hv.trans (List.suffix_cons _ _))) around
  rw [closed, under, haround, writeOut_append _ p.value hvalue, closed]

end Part

end SchemaDecl.Value
