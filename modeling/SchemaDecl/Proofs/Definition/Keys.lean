import Mathlib.Data.List.Nodup
import SchemaDecl.Proofs.Definition.Plain
import SchemaDecl.Proofs.Keyed

/-! The keys of properties. Decoding puts one property under each key, so a property of a decoded
definition is found by its key. -/

namespace SchemaDecl.Definition

/-- No two properties have the same key. -/
def Keyed (d : Definition) : Prop :=
  ((d.properties.getD []).map Prod.fst).Nodup

theorem property?_eq_some_iff {d : Definition} (h : d.Keyed) {key : String} {x : Definition} :
    d.property? key = some x ↔ (key, x) ∈ d.properties.getD [] :=
  lookup_eq_some_iff h

/-! ### Decoding -/

theorem mem_keys_putProperty {p : String × Definition} {ps : List (String × Definition)} {key : String} :
    key ∈ (putProperty p ps).map Prod.fst ↔ key = p.1 ∨ key ∈ ps.map Prod.fst := by
  induction ps with
  | nil => simp [putProperty]
  | cons q ps ih =>
    rw [putProperty]
    split
    next hq =>
      have hq : q.1 = p.1 := by simpa using hq
      simp [hq]
    next => rw [List.map_cons, List.mem_cons, ih, List.map_cons, List.mem_cons, or_left_comm]

theorem nodup_keys_putProperty (p : String × Definition) {ps : List (String × Definition)}
    (h : (ps.map Prod.fst).Nodup) : ((putProperty p ps).map Prod.fst).Nodup := by
  induction ps with
  | nil => simp [putProperty]
  | cons q ps ih =>
    obtain ⟨hq, hps⟩ := List.nodup_cons.1 h
    rw [putProperty]
    split
    next he =>
      have he : q.1 = p.1 := by simpa using he
      exact List.nodup_cons.2 ⟨he ▸ hq, hps⟩
    next hne =>
      refine List.nodup_cons.2 ⟨fun hm => ?_, ih hps⟩
      rcases mem_keys_putProperty.1 hm with he | hm
      · exact hne (by simpa using he)
      · exact hq hm

theorem nodup_keys_distinct (ps : List (String × Definition)) :
    ((distinct ps).map Prod.fst).Nodup := by
  have hfold : ∀ m : List (String × Definition), (m.map Prod.fst).Nodup →
      ((ps.foldl (fun m p => putProperty p m) m).map Prod.fst).Nodup := by
    induction ps with
    | nil => exact fun m hm => hm
    | cons p ps ih => exact fun m hm => ih _ (nodup_keys_putProperty p hm)
  exact hfold [] List.nodup_nil

theorem putProperty_of_not_mem {p : String × Definition} {ps : List (String × Definition)}
    (h : p.1 ∉ ps.map Prod.fst) : putProperty p ps = ps ++ [p] := by
  induction ps with
  | nil => rfl
  | cons q ps ih =>
    rw [List.map_cons, List.mem_cons, not_or] at h
    obtain ⟨hq, hps⟩ := h
    rw [putProperty, if_neg (by simpa using Ne.symm hq), ih hps, List.cons_append]

/-- Properties with keys of their own all count. -/
theorem distinct_of_nodup {ps : List (String × Definition)} (h : (ps.map Prod.fst).Nodup) :
    distinct ps = ps := by
  have hfold : ∀ m : List (String × Definition), ((m ++ ps).map Prod.fst).Nodup →
      ps.foldl (fun m p => putProperty p m) m = m ++ ps := by
    clear h
    induction ps with
    | nil => exact fun m _ => (List.append_nil m).symm
    | cons p ps ih =>
      intro m hm
      have hfree : p.1 ∉ m.map Prod.fst := by
        rw [List.map_append, List.nodup_append] at hm
        intro hp
        exact hm.2.2 _ hp _ List.mem_cons_self rfl
      rw [List.append_cons] at hm ⊢
      rw [List.foldl_cons, putProperty_of_not_mem hfree]
      exact ih _ hm
  exact hfold [] h

theorem nodup_keys_decodeSlots {entries : List (Value × Value)} {ps : List (String × Definition)}
    (h : (decodeSlots entries).properties = some (.ok (some ps))) : (ps.map Prod.fst).Nodup := by
  induction entries with
  | nil => cases h
  | cons e rest ih =>
    obtain ⟨k, v⟩ := e
    rw [decodeSlots.eq_def] at h
    dsimp only at h
    split at h
    case h_8 =>
      have h := Option.some.inj h
      cases v with
      | map entries =>
        rw [decodeProperties] at h
        obtain ⟨all, -, hsome⟩ := map_eq_ok h
        cases hsome
        exact nodup_keys_distinct all
      | _ => cases h
    all_goals exact ih h

theorem keyed_of_decode {v : Value} {d : Definition} (h : decode v = .ok d) : d.Keyed := by
  cases v with
  | map entries =>
    rw [decode] at h
    unfold Keyed
    cases hps : d.properties with
    | none => exact List.nodup_nil
    | some ps =>
      have hd := (Slots.describes_of_assemble h).properties
      exact nodup_keys_decodeSlots (Slots.one_eq_ok (hps ▸ hd))
  | _ => cases h

end SchemaDecl.Definition
