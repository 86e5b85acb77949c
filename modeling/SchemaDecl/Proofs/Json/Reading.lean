import SchemaDecl.Json.Reader
import SchemaDecl.Proofs.Returns

/-! What reading JSON gives: data without dates, bytes, sets and circles, whose mappings have texts for
keys, each once, and whose integers have no more digits than can be written again. -/

namespace SchemaDecl

/-- Data as JSON holds it. -/
inductive Value.IsJson : Value → Prop
  | null : IsJson .null
  | bool (b : Bool) : IsJson (.bool b)
  | int {n : Int} (h : n.natAbs < Nat.pow 10 Numeral.digitLimit) : IsJson (.int n)
  | float (x : Binary64) : IsJson (.float x)
  | text (s : String) : IsJson (.text s)
  | list {items : List Value} (h : ∀ v ∈ items, IsJson v) : IsJson (.list items)
  | map {entries : List (Value × Value)} (hk : ∀ e ∈ entries, ∃ s, e.1 = .text s)
      (hn : (entries.map Prod.fst).Nodup) (h : ∀ e ∈ entries, IsJson e.2) : IsJson (.map entries)

/-- An entry with a text for its key. -/
def Value.IsJsonEntry (e : Value × Value) : Prop :=
  (∃ s, e.1 = .text s) ∧ e.2.IsJson

namespace Value

variable {s : String} {value : Value} {entries : List (Value × Value)}

theorem isJson_map_iff : IsJson (.map entries) ↔
    (entries.map Prod.fst).Nodup ∧ ∀ e ∈ entries, IsJsonEntry e := by
  constructor
  · rintro ⟨⟩
    next hk hn h => exact ⟨hn, fun e he => ⟨hk e he, h e he⟩⟩
  · rintro ⟨hn, h⟩
    exact .map (fun e he => (h e he).1) hn fun e he => (h e he).2

/-! ### Mappings -/

theorem fst_mem_insert {key k : Value} (h : k ∈ (insert key value entries).map Prod.fst) :
    k = key ∨ k ∈ entries.map Prod.fst := by
  induction entries with
  | nil => simpa [insert] using h
  | cons x rest ih =>
    obtain ⟨k', v⟩ := x
    rw [insert] at h
    split at h
    · exact Or.inr (by simpa using h)
    · rw [List.map_cons, List.mem_cons] at h ⊢
      rcases h with h | h
      · exact Or.inr (Or.inl h)
      · exact (ih h).imp_right Or.inr

theorem isJson_insert (h : IsJson (.map entries)) (hv : value.IsJson) :
    IsJson (.map (insert (.text s) value entries)) := by
  induction entries with
  | nil => exact isJson_map_iff.2 ⟨by simp [insert], by simp [insert, IsJsonEntry, hv]⟩
  | cons x rest ih =>
    obtain ⟨k, v⟩ := x
    rw [isJson_map_iff, List.map_cons, List.nodup_cons, List.forall_mem_cons] at h
    obtain ⟨⟨hk, hn⟩, ⟨⟨t, ht⟩, hw⟩, hrest⟩ := h
    obtain rfl : k = .text t := ht
    rw [insert]
    by_cases hts : t = s
    · rw [if_pos (by simpa [sameScalar] using hts), isJson_map_iff, List.map_cons, List.nodup_cons,
        List.forall_mem_cons]
      exact ⟨⟨hk, hn⟩, ⟨⟨t, rfl⟩, hv⟩, hrest⟩
    · rw [if_neg (by simpa [sameScalar] using hts), isJson_map_iff, List.map_cons, List.nodup_cons,
        List.forall_mem_cons]
      obtain ⟨hn', hrest'⟩ := isJson_map_iff.1 (ih (isJson_map_iff.2 ⟨hn, hrest⟩))
      refine ⟨⟨fun hm => ?_, hn'⟩, ⟨⟨t, rfl⟩, hw⟩, hrest'⟩
      rcases fst_mem_insert hm with h | h
      · cases h
        exact hts rfl
      · exact hk h

/-- Writing entries one after another ends with each key once. -/
theorem isJson_ofEntries {es : List (Value × Value)} (h : ∀ e ∈ es, IsJsonEntry e) :
    (ofEntries es).IsJson := by
  -- the induction runs over what is still to be written, from any mapping on
  have hall : ∀ m, IsJson (.map m) → IsJson (.map (es.foldl (fun m e => insert e.1 e.2 m) m)) := by
    induction es with
    | nil => exact fun m hm => hm
    | cons e es ih =>
      intro m hm
      obtain ⟨⟨s, hs⟩, hv⟩ := h e List.mem_cons_self
      rw [List.foldl_cons, hs]
      exact ih (fun e he => h e (List.mem_cons_of_mem _ he)) _ (isJson_insert hm hv)
  exact hall [] (isJson_map_iff.2 ⟨List.nodup_nil, by simp⟩)

end Value

namespace Json

/-! ### Numbers -/

theorem digit_lt_ten {c : Char} (h : isDigit c) : c.toNat - 48 < 10 := by
  rw [isDigit, Bool.and_eq_true, decide_eq_true_eq, decide_eq_true_eq] at h
  have h9 : c.toNat ≤ 57 := h.2
  omega

theorem digitsValue_lt {ds : List Char} (h : ∀ c ∈ ds, isDigit c) :
    digitsValue ds < Nat.pow 10 ds.length := by
  have hstep : ∀ n, ds.foldl (fun n c => n * 10 + (c.toNat - 48)) n < (n + 1) * Nat.pow 10 ds.length := by
    induction ds with
    | nil => simp
    | cons c ds ih =>
      intro n
      have hc := digit_lt_ten (h c List.mem_cons_self)
      calc (c :: ds).foldl (fun n c => n * 10 + (c.toNat - 48)) n
          < (n * 10 + (c.toNat - 48) + 1) * Nat.pow 10 ds.length :=
            ih (fun c hc => h c (List.mem_cons_of_mem _ hc)) _
        _ ≤ ((n + 1) * 10) * Nat.pow 10 ds.length := Nat.mul_le_mul_right _ (by omega)
        _ = (n + 1) * (Nat.pow 10 ds.length * 10) := by rw [Nat.mul_assoc, Nat.mul_comm 10]
  simpa [digitsValue] using hstep 0

theorem pow_le_pow_of_le {m n : Nat} (h : m ≤ n) : Nat.pow 10 m ≤ Nat.pow 10 n :=
  Nat.pow_le_pow_right (by decide) h

theorem isDigit_of_mem_readWhole {s : List Char} : ∀ c ∈ (readWhole s).1, isDigit c := by
  intro c hc
  unfold readWhole at hc
  split at hc
  · obtain rfl : c = '0' := by simpa using hc
    decide
  · exact List.all_eq_true.1 List.all_takeWhile c hc

theorem isJson_readNumber {negative : Bool} {s r : List Char} {v : Value}
    (h : readNumber negative s = some (.ok (v, r))) : v.IsJson := by
  unfold readNumber at h
  dsimp only at h
  split at h
  · cases h
  split at h
  · split at h
    · cases h
    next hlimit =>
      cases h
      have hlt := digitsValue_lt (isDigit_of_mem_readWhole (s := s))
      have hle := pow_le_pow_of_le (Nat.not_lt.1 hlimit)
      refine .int ?_
      cases negative
      · exact Nat.lt_of_lt_of_le hlt hle
      · rw [if_pos rfl, Int.natAbs_neg]
        exact Nat.lt_of_lt_of_le hlt hle
  · cases h
    exact .float _

theorem eq_some_of_getD {ε α : Type} {x : Option (Except ε α)} {e : ε} {a : α}
    (h : x.getD (.error e) = .ok a) : x = some (.ok a) := by
  cases x with
  | none => cases h
  | some y => exact congrArg some h

theorem isJson_readScalar {s r : List Char} {v : Value} (h : readScalar s = .ok (v, r)) :
    v.IsJson := by
  unfold readScalar at h
  split at h
  next found hf =>
    cases h
    obtain ⟨⟨w, c⟩, hc, hw⟩ := List.exists_of_findSome?_eq_some hf
    obtain ⟨r', -, hr⟩ := Option.map_eq_some_iff.1 hw
    cases hr
    simp only [constants, List.mem_cons, List.not_mem_nil, or_false, Prod.mk.injEq] at hc
    rcases hc with h | h | h | h | h | h <;> rw [h.2]
    · exact .null
    · exact .bool true
    · exact .bool false
    · exact .float _
    · exact .float _
    · exact .float _
  next =>
    dsimp only at h
    split at h
    · exact isJson_readNumber (eq_some_of_getD h)
    · exact isJson_readNumber (eq_some_of_getD h)

/-! ### Values -/

/-- Whatever is read with some fuel is data as JSON holds it. -/
structure Sound (fuel : Nat) : Prop where
  value : ∀ {s r : List Char} {v : Value}, readValue fuel s = .ok (v, r) → v.IsJson
  items : ∀ {done items : List Value} {s r : List Char}, (∀ v ∈ done, v.IsJson) →
    readItems fuel done s = .ok (items, r) → ∀ v ∈ items, v.IsJson
  entries : ∀ {done entries : List (Value × Value)} {s r : List Char},
    (∀ e ∈ done, Value.IsJsonEntry e) → readEntries fuel done s = .ok (entries, r) →
    ∀ e ∈ entries, Value.IsJsonEntry e

theorem Sound.succ_value {fuel : Nat} (hf : Sound fuel) {s r : List Char} {v : Value}
    (h : readValue (fuel + 1) s = .ok (v, r)) : v.IsJson := by
  rw [readValue.eq_def] at h
  dsimp only at h
  split at h
  next =>
    obtain ⟨⟨t, r'⟩, -, h⟩ := bind_eq_ok h
    cases h
    exact .text t
  next =>
    split at h
    · cases h
      exact .list (by simp)
    · obtain ⟨⟨items, r'⟩, hi, h⟩ := bind_eq_ok h
      cases h
      exact .list (hf.items (by simp) hi)
  next =>
    split at h
    · cases h
      exact .map (by simp) .nil (by simp)
    · obtain ⟨⟨entries, r'⟩, he, h⟩ := bind_eq_ok h
      cases h
      exact Value.isJson_ofEntries (hf.entries (by simp) he)
  next => exact isJson_readScalar h

theorem Sound.succ_items {fuel : Nat} (hf : Sound fuel) {done items : List Value} {s r : List Char}
    (hd : ∀ v ∈ done, v.IsJson) (h : readItems (fuel + 1) done s = .ok (items, r)) :
    ∀ v ∈ items, v.IsJson := by
  rw [readItems.eq_def] at h
  obtain ⟨⟨v, r'⟩, hv, h⟩ := bind_eq_ok h
  have hdone : ∀ w ∈ v :: done, w.IsJson := List.forall_mem_cons.2 ⟨hf.value hv, hd⟩
  dsimp only at h
  split at h
  · cases h
    intro w hw
    exact hdone w (List.mem_reverse.1 hw)
  · exact hf.items hdone h
  · cases h

theorem Sound.succ_entries {fuel : Nat} (hf : Sound fuel) {done entries : List (Value × Value)}
    {s r : List Char} (hd : ∀ e ∈ done, Value.IsJsonEntry e)
    (h : readEntries (fuel + 1) done s = .ok (entries, r)) : ∀ e ∈ entries, Value.IsJsonEntry e := by
  rw [readEntries.eq_def] at h
  dsimp only at h
  split at h
  next =>
    obtain ⟨⟨k, r'⟩, -, h⟩ := bind_eq_ok h
    dsimp only at h
    split at h
    next =>
      obtain ⟨⟨v, r''⟩, hv, h⟩ := bind_eq_ok h
      have hdone : ∀ e ∈ (.text k, v) :: done, Value.IsJsonEntry e :=
        List.forall_mem_cons.2 ⟨⟨⟨k, rfl⟩, hf.value hv⟩, hd⟩
      dsimp only at h
      split at h
      · cases h
        intro e he
        exact hdone e (List.mem_reverse.1 he)
      · exact hf.entries hdone h
      · cases h
    next => cases h
  next => cases h

theorem sound (fuel : Nat) : Sound fuel := by
  induction fuel with
  | zero => exact ⟨nofun, fun _ => nofun, fun _ => nofun⟩
  | succ fuel ih => exact ⟨ih.succ_value, ih.succ_items, ih.succ_entries⟩

theorem isJson_read {s : String} {v : Value} (h : read s = .ok v) : v.IsJson := by
  unfold read at h
  split at h
  next w hw =>
    cases h
    unfold readChars at hw
    split at hw
    · cases hw
    · obtain ⟨⟨w', r⟩, hv, hw⟩ := bind_eq_ok hw
      dsimp only at hw
      split at hw
      · cases hw
        exact (sound _).value hv
      · cases hw
  next => cases h

end Json

end SchemaDecl
