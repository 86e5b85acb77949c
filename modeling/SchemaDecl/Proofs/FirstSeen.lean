import SchemaDecl.TypeExpr

/-! First occurrences in a list. Picking them in parts and then once more in what is left of the parts
picks the same as going through the whole list once. -/

namespace SchemaDecl

variable {α : Type} [BEq α] [LawfulBEq α]

omit [LawfulBEq α] in
@[simp] theorem firstSeen_nil : firstSeen ([] : List α) = [] := rfl

omit [LawfulBEq α] in
theorem firstSeen_cons (x : α) (xs : List α) :
    firstSeen (x :: xs) = x :: (firstSeen xs).filter fun y => !(y == x) := rfl

@[simp] theorem mem_firstSeen {x : α} {xs : List α} : x ∈ firstSeen xs ↔ x ∈ xs := by
  induction xs with
  | nil => simp
  | cons y ys ih =>
    rw [firstSeen_cons, List.mem_cons, List.mem_cons, List.mem_filter, ih]
    by_cases h : x = y <;> simp [h]

theorem nodup_firstSeen (xs : List α) : (firstSeen xs).Nodup := by
  induction xs with
  | nil => exact List.nodup_nil
  | cons x xs ih =>
    rw [firstSeen_cons, List.nodup_cons]
    exact ⟨by simp, ih.filter _⟩

theorem firstSeen_of_nodup {xs : List α} (h : xs.Nodup) : firstSeen xs = xs := by
  induction xs with
  | nil => rfl
  | cons x xs ih =>
    obtain ⟨hx, hxs⟩ := List.nodup_cons.1 h
    rw [firstSeen_cons, ih hxs, List.filter_eq_self.2]
    intro y hy
    have : y ≠ x := fun e => hx (e ▸ hy)
    simpa using this

omit [LawfulBEq α] in
theorem firstSeen_sublist (xs : List α) : (firstSeen xs).Sublist xs := by
  induction xs with
  | nil => exact List.Sublist.refl _
  | cons x xs ih => exact (List.filter_sublist.trans ih).cons_cons x

theorem firstSeen_firstSeen (xs : List α) : firstSeen (firstSeen xs) = firstSeen xs :=
  firstSeen_of_nodup (nodup_firstSeen xs)

/-- What a list adds to the first occurrences in the one before it. -/
theorem firstSeen_append (xs ys : List α) :
    firstSeen (xs ++ ys) = firstSeen xs ++ (firstSeen ys).filter fun y => !xs.contains y := by
  induction xs with
  | nil => exact (List.filter_eq_self.2 (by simp)).symm
  | cons x xs ih =>
    rw [List.cons_append, firstSeen_cons, firstSeen_cons, ih, List.filter_append, List.filter_filter,
      List.cons_append]
    congr 2
    refine List.filter_congr fun y _ => ?_
    simp

/-- Going through the first occurrences of each part is going through the parts. -/
theorem firstSeen_flatten_map_firstSeen (xss : List (List α)) :
    firstSeen (xss.map firstSeen).flatten = firstSeen xss.flatten := by
  induction xss with
  | nil => rfl
  | cons xs xss ih =>
    rw [List.map_cons, List.flatten_cons, List.flatten_cons, firstSeen_append, firstSeen_append, ih,
      firstSeen_firstSeen]
    congr 1
    refine List.filter_congr fun y _ => ?_
    simp

end SchemaDecl
