import SchemaDecl.Proofs.Identifier.Shape

/-! The search for a free identifier. It comes to the variant with the least number that is free, and
to the identifier itself when that is free. -/

namespace SchemaDecl.Identifier

/-- The variant that a search finds: the free one with the least number. -/
theorem firstFree_eq (taken : List String) (base : String) (k : Nat) :
    ∃ m, k ≤ m ∧ firstFree taken base k = numbered base m ∧ numbered base m ∉ taken ∧
      ∀ j, k ≤ j → j < m → numbered base j ∈ taken := by
  induction k using firstFree.induct taken base with
  | case1 k hk ih =>
    obtain ⟨m, hm, he, hfree, hbelow⟩ := ih
    refine ⟨m, by omega, by rw [firstFree, if_pos hk, he], hfree, fun j hj hjm => ?_⟩
    rcases Nat.eq_or_lt_of_le hj with rfl | hlt
    · exact hk
    · exact hbelow j hlt hjm
  | case2 k hk =>
    exact ⟨k, Nat.le_refl k, by rw [firstFree, if_neg hk], hk, fun j hj hjk => by omega⟩

theorem fresh_not_mem (taken : List String) (base : String) : fresh taken base ∉ taken := by
  unfold fresh
  split
  next =>
    obtain ⟨m, -, he, hfree, -⟩ := firstFree_eq taken base 2
    rw [he]
    exact hfree
  next h => exact h

theorem suffixed_fresh (taken : List String) (base : String) :
    Suffixed base (fresh taken base) := by
  unfold fresh
  split
  next =>
    obtain ⟨m, hm, he, -, -⟩ := firstFree_eq taken base 2
    rw [he]
    exact Suffixed.base.numbered m hm
  next => exact Suffixed.base

end SchemaDecl.Identifier
