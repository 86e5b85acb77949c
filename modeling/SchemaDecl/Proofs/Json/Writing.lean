import Mathlib.Data.List.InsertIdx
import SchemaDecl.Json.Writer
import SchemaDecl.Proofs.Json.Reading
import SchemaDecl.Value.Part

/-! Data as JSON holds it can be written again, in every style that has words for numbers that are
none, and it does not lie inside itself. -/

namespace SchemaDecl

namespace Json

variable {style : Style}

theorem length_toString_le {n k : Nat} (hk : 0 < k) (h : n < Nat.pow 10 k) :
    (toString n).length ≤ k :=
  (Nat.length_repr_le_iff hk).2 h

theorem exists_integerText {n : Int} (h : n.natAbs < Nat.pow 10 Numeral.digitLimit) :
    ∃ t, integerText n = .ok t := by
  have hl : (toString n.natAbs).length ≤ Numeral.digitLimit :=
    length_toString_le (by decide) h
  rw [integerText, Numeral.integerText?, if_neg (Nat.not_lt.2 hl)]
  exact ⟨_, rfl⟩

theorem exists_floatText (he : style.endless) (x : Binary64) : ∃ t, floatText style x = .ok t := by
  cases x <;> simp [floatText, he]

theorem exists_mapM {ε α β : Type} {f : α → Except ε β} {xs : List α}
    (h : ∀ x ∈ xs, ∃ y, f x = .ok y) : ∃ ys, xs.mapM f = .ok ys := by
  induction xs with
  | nil => exact ⟨[], rfl⟩
  | cons x xs ih =>
    obtain ⟨y, hy⟩ := h x List.mem_cons_self
    obtain ⟨ys, hys⟩ := ih fun x hx => h x (List.mem_cons_of_mem _ hx)
    exact ⟨y :: ys, by rw [List.mapM_cons, hy, hys]; rfl⟩

/-! ### The order of entries -/

theorem run_append {α : Type} (lt : α → α → Bool) (falling : Bool) (last : α) (items : List α) :
    (run lt falling last items).1 ++ (run lt falling last items).2 = items := by
  induction items generalizing last with
  | nil => rfl
  | cons x items ih =>
    rw [run]
    split
    · exact congrArg (x :: ·) (ih x)
    · rfl

theorem insertionSort_subset {α : Type} (lt : α → α → Bool) (items : List α) :
    insertionSort lt items ⊆ items := by
  have hfold : ∀ (back front : List α), back.foldl (insertByHalves lt) front ⊆ back ++ front := by
    intro back
    induction back with
    | nil => exact fun front => List.Subset.refl front
    | cons x back ih =>
      intro front y hy
      rcases List.mem_append.1 (ih _ hy) with hy | hy
      · simp [hy]
      · rcases List.eq_or_mem_of_mem_insertIdx hy with rfl | hy
        · simp
        · simp [hy]
  match items with
  | [] => exact List.Subset.refl _
  | [x] => exact List.Subset.refl _
  | x :: y :: rest =>
    intro z hz
    rw [← run_append lt (lt y x) y rest]
    rcases List.mem_append.1 (hfold _ _ hz) with hz | hz
    · simp [hz]
    · have hfirst : z ∈ x :: y :: (run lt (lt y x) y rest).1 := by
        split at hz
        · exact List.mem_reverse.1 hz
        · exact hz
      simpa [or_assoc] using Or.inl (b := z ∈ (run lt (lt y x) y rest).2) hfirst

/-- Sorting moves entries and adds none. -/
theorem mem_sortEntries {α : Type} {entries : List (Value × α)} {e : Value × α}
    (he : e ∈ sortEntries entries) : e ∈ entries := by
  rw [sortEntries] at he
  split at he
  · exact insertionSort_subset _ _ he
  · exact (List.mergeSort_perm entries _).mem_iff.1 he

/-! ### Entries, items and values -/

theorem exists_entryTexts (style : Style) {entries : List (Value × Except WriteError String)}
    (h : ∀ e ∈ entries, (∃ s, e.1 = .text s) ∧ ∃ t, e.2 = .ok t) :
    ∃ texts, entryTexts style entries = .ok texts := by
  have hk : ∀ e ∈ entries, ∃ s, e.1 = .text s := fun e he => (h e he).1
  have hsortable : sortable (entries.map Prod.fst) = true := by
    have : (entries.map Prod.fst).all isTextKey = true := by
      rw [List.all_eq_true]
      intro k hm
      obtain ⟨e, he, rfl⟩ := List.mem_map.1 hm
      obtain ⟨s, hs⟩ := hk e he
      rw [hs]
      rfl
    simp [sortable, this]
  have hwrite : ∀ e ∈ (if style.sorted then sortEntries entries else entries),
      ∃ t, (do
        let t ← keyText style e.1
        Except.ok (style.text t ++ style.colon ++ (← e.2))) = Except.ok t := by
    intro e he
    have hm : e ∈ entries := by
      split at he
      · exact mem_sortEntries he
      · exact he
    obtain ⟨⟨s, hs⟩, t, ht⟩ := h e hm
    rw [hs, ht]
    exact ⟨_, rfl⟩
  obtain ⟨texts, ht⟩ := exists_mapM hwrite
  refine ⟨texts, ?_⟩
  rw [entryTexts, hsortable]
  simp only [Bool.not_true, Bool.and_false, Bool.false_eq_true, if_false]
  exact ht

theorem exists_writeItems {level : Nat} {items : List Value}
    (h : ∀ v ∈ items, ∃ t, writeAt style level v = .ok t) :
    ∃ ts, writeItems style level items = .ok ts := by
  induction items with
  | nil => exact ⟨[], rfl⟩
  | cons v items ih =>
    obtain ⟨t, ht⟩ := h v List.mem_cons_self
    obtain ⟨ts, hts⟩ := ih fun v hv => h v (List.mem_cons_of_mem _ hv)
    exact ⟨t :: ts, by rw [writeItems, ht, hts]; rfl⟩

theorem mem_writeEntries {level : Nat} {entries : List (Value × Value)}
    {e : Value × Except WriteError String} (he : e ∈ writeEntries style level entries) :
    ∃ x ∈ entries, e = (x.1, writeAt style level x.2) := by
  induction entries with
  | nil => cases he
  | cons x entries ih =>
    rw [writeEntries] at he
    rcases List.mem_cons.1 he with rfl | he
    · exact ⟨x, List.mem_cons_self, rfl⟩
    · obtain ⟨y, hy, he⟩ := ih he
      exact ⟨y, List.mem_cons_of_mem _ hy, he⟩

/-- Data as JSON holds it has a text. -/
theorem exists_writeAt (he : style.endless) {v : Value} (h : v.IsJson) (level : Nat) :
    ∃ t, writeAt style level v = .ok t := by
  induction h generalizing level with
  | null => exact ⟨_, by rw [writeAt]⟩
  | bool b => exact ⟨_, by rw [writeAt]⟩
  | int h =>
    rw [writeAt]
    exact exists_integerText h
  | float x =>
    rw [writeAt]
    exact exists_floatText he x
  | text s => exact ⟨_, by rw [writeAt]⟩
  | list _ ih =>
    obtain ⟨ts, hts⟩ := exists_writeItems fun v hv => ih v hv (level + 1)
    exact ⟨_, by rw [writeAt, hts]; rfl⟩
  | @map entries hk _ _ ih =>
    have hentries : ∀ e ∈ writeEntries style (level + 1) entries,
        (∃ s, e.1 = .text s) ∧ ∃ t, e.2 = .ok t := by
      intro e he
      obtain ⟨x, hx, rfl⟩ := mem_writeEntries he
      exact ⟨hk x hx, ih x hx (level + 1)⟩
    obtain ⟨ts, hts⟩ := exists_entryTexts style hentries
    exact ⟨_, by rw [writeAt, hts]; rfl⟩

theorem exists_write (style : Style) (he : style.endless) {v : Value} (h : v.IsJson) :
    ∃ t, write style v = .ok t :=
  exists_writeAt he h 0

end Json

namespace Value

theorem anyCircular_eq_false {items : List Value} (h : ∀ v ∈ items, v.isCircular = false) :
    anyCircular items = false := by
  induction items with
  | nil => rw [anyCircular]
  | cons v items ih =>
    rw [List.forall_mem_cons] at h
    rw [anyCircular, h.1, ih h.2, Bool.or_false]

theorem anyEntryCircular_eq_false {entries : List (Value × Value)}
    (h : ∀ e ∈ entries, e.2.isCircular = false) : anyEntryCircular entries = false := by
  induction entries with
  | nil => rw [anyEntryCircular]
  | cons e entries ih =>
    rw [List.forall_mem_cons] at h
    rw [anyEntryCircular, h.1, ih h.2, Bool.or_false]

theorem IsJson.isCircular_eq_false {v : Value} (h : v.IsJson) : v.isCircular = false := by
  induction h with
  | list _ ih => rw [isCircular, anyCircular_eq_false ih]
  | map _ _ _ ih => rw [isCircular, anyEntryCircular_eq_false ih]
  | null => rfl
  | bool => rfl
  | int => rfl
  | float => rfl
  | text => rfl

end Value

end SchemaDecl
