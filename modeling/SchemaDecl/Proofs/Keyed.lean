/-! Lists whose items have keys of their own. A search by a key finds the item with that key, wherever
it stands, so it finds the same in every longer list. -/

namespace SchemaDecl

variable {α β : Type}

theorem find?_key_eq_some_iff {key : α → β} {p : β → Bool} {k : β} (hp : ∀ b, p b = true ↔ b = k)
    {xs : List α} (h : (xs.map key).Nodup) {x : α} :
    (xs.find? fun y => p (key y)) = some x ↔ x ∈ xs ∧ key x = k := by
  induction xs with
  | nil => simp
  | cons y xs ih =>
    obtain ⟨hy, hxs⟩ := List.nodup_cons.1 (List.map_cons ▸ h)
    rw [List.mem_cons]
    by_cases hk : key y = k
    · have hpos : p (key y) = true := (hp _).2 hk
      rw [List.find?_cons_of_pos (by exact hpos)]
      constructor
      · rintro ⟨rfl⟩
        exact ⟨Or.inl rfl, hk⟩
      · rintro ⟨rfl | hx, hxk⟩
        · rfl
        · exact absurd (List.mem_map.2 ⟨x, hx, hxk.trans hk.symm⟩) hy
    · have hneg : ¬p (key y) = true := fun h => hk ((hp _).1 h)
      rw [List.find?_cons_of_neg (by exact hneg), ih hxs]
      constructor
      · rintro ⟨hx, hxk⟩
        exact ⟨Or.inr hx, hxk⟩
      · rintro ⟨rfl | hx, hxk⟩
        · exact absurd hxk hk
        · exact ⟨hx, hxk⟩

theorem lookup_eq_some_iff [BEq β] [LawfulBEq β] {xs : List (β × α)} (h : (xs.map Prod.fst).Nodup)
    {k : β} {x : α} : xs.lookup k = some x ↔ (k, x) ∈ xs := by
  induction xs with
  | nil => simp
  | cons p xs ih =>
    obtain ⟨k', y⟩ := p
    obtain ⟨hk, hxs⟩ := List.nodup_cons.1 (List.map_cons ▸ h)
    rw [List.lookup_cons, List.mem_cons, Prod.mk.injEq]
    by_cases he : k = k'
    · subst he
      rw [beq_self_eq_true]
      constructor
      · rintro ⟨rfl⟩
        exact Or.inl ⟨rfl, rfl⟩
      · rintro (⟨-, rfl⟩ | hm)
        · rfl
        · exact absurd (List.mem_map_of_mem hm) hk
    · rw [beq_eq_false_iff_ne.2 he]
      dsimp only
      rw [ih hxs]
      constructor
      · exact Or.inr
      · rintro (⟨rfl, -⟩ | hm)
        · exact absurd rfl he
        · exact hm

end SchemaDecl
