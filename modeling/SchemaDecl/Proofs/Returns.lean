/-! Work that returns or fails, taken apart. What is put together from parts returns only if all parts
do, and fails with the fault of one of them. -/

namespace SchemaDecl

variable {ε α β γ δ : Type} {x : Except ε α}

theorem bind_eq_ok {f : α → Except ε β} {b : β} (h : (x >>= f) = .ok b) :
    ∃ a, x = .ok a ∧ f a = .ok b := by
  cases x with
  | error e => cases h
  | ok a => exact ⟨a, rfl, h⟩

theorem bind_eq_error {f : α → Except ε β} {e : ε} (h : (x >>= f) = .error e) :
    x = .error e ∨ ∃ a, x = .ok a ∧ f a = .error e := by
  cases x with
  | error e' =>
    cases h
    exact Or.inl rfl
  | ok a => exact Or.inr ⟨a, rfl, h⟩

theorem map_eq_ok {f : α → β} {b : β} (h : x.map f = .ok b) : ∃ a, x = .ok a ∧ f a = b := by
  cases x with
  | error e => cases h
  | ok a =>
    cases h
    exact ⟨a, rfl, rfl⟩

theorem map_eq_error {f : α → β} {e : ε} (h : x.map f = .error e) : x = .error e := by
  cases x with
  | error e' =>
    cases h
    rfl
  | ok a => cases h

/-- Results of one view go on to results of one view if what follows heeds no more than the view. -/
theorem map_bind_congr {x x' : Except ε α} {view : α → β} (h : x.map view = x'.map view)
    {k k' : α → Except ε γ} {g : γ → δ}
    (hk : ∀ a a', view a = view a' → (k a).map g = (k' a').map g) :
    (x >>= k).map g = (x' >>= k').map g := by
  cases x with
  | error e =>
    cases x' with
    | error e' =>
      cases h
      rfl
    | ok a' => cases h
  | ok a =>
    cases x' with
    | error e' => cases h
    | ok a' => exact hk a a' (Except.ok.inj h)

theorem mapError_eq_ok {ε' : Type} {f : ε → ε'} {a : α} : x.mapError f = .ok a ↔ x = .ok a := by
  cases x with
  | error e => exact iff_of_false (fun h => by cases h) fun h => by cases h
  | ok b => exact ⟨fun h => by cases h; rfl, fun h => by cases h; rfl⟩

theorem mapError_eq_error {ε' : Type} {f : ε → ε'} {e' : ε'} (h : x.mapError f = .error e') :
    ∃ e, x = .error e ∧ f e = e' := by
  cases x with
  | error e =>
    cases h
    exact ⟨e, rfl, rfl⟩
  | ok a => cases h

theorem eq_ok_of_toOption {a : α} (h : x.toOption = some a) : x = .ok a := by
  cases x with
  | error e => cases h
  | ok b =>
    cases h
    rfl

/-- A list fails with the fault of one of its items. -/
theorem exists_of_mapM_eq_error {f : α → Except ε β} {xs : List α} {e : ε}
    (h : xs.mapM f = .error e) : ∃ a ∈ xs, f a = .error e := by
  induction xs with
  | nil => cases h
  | cons a xs ih =>
    rw [List.mapM_cons] at h
    rcases bind_eq_error h with h | ⟨b, -, h⟩
    · exact ⟨a, List.mem_cons_self, h⟩
    · rcases bind_eq_error h with h | ⟨bs, -, h⟩
      · obtain ⟨a', ha, h⟩ := ih h
        exact ⟨a', List.mem_cons_of_mem _ ha, h⟩
      · cases h

/-- What a list returns comes from its items. -/
theorem exists_of_mem_mapM {f : α → Except ε β} {xs : List α} {ys : List β} (h : xs.mapM f = .ok ys)
    {b : β} (hb : b ∈ ys) : ∃ a ∈ xs, f a = .ok b := by
  induction xs generalizing ys with
  | nil =>
    cases h
    cases hb
  | cons a xs ih =>
    rw [List.mapM_cons] at h
    obtain ⟨y, hy, h⟩ := bind_eq_ok h
    obtain ⟨ys, hys, ⟨⟩⟩ := bind_eq_ok h
    rcases List.mem_cons.1 hb with rfl | hb
    · exact ⟨a, List.mem_cons_self, hy⟩
    · obtain ⟨a', ha, h⟩ := ih hys hb
      exact ⟨a', List.mem_cons_of_mem _ ha, h⟩

theorem mapM_congr {f f' : α → Except ε β} {xs : List α} (h : ∀ a ∈ xs, f a = f' a) :
    xs.mapM f = xs.mapM f' := by
  induction xs with
  | nil => rfl
  | cons a xs ih =>
    obtain ⟨ha, hxs⟩ := List.forall_mem_cons.1 h
    rw [List.mapM_cons, List.mapM_cons, ha, ih hxs]

/-- Lists whose items give results of one view do so themselves. -/
theorem map_mapM_congr {f f' : α → Except ε β} {h : α → α} {view : β → γ} {xs : List α}
    (hf : ∀ a ∈ xs, (f a).map view = (f' (h a)).map view) :
    (xs.mapM f).map (List.map view) = ((xs.map h).mapM f').map (List.map view) := by
  induction xs with
  | nil => rfl
  | cons a xs ih =>
    obtain ⟨ha, hxs⟩ := List.forall_mem_cons.1 hf
    rw [List.map_cons, List.mapM_cons, List.mapM_cons]
    refine map_bind_congr ha fun b b' hb => map_bind_congr (ih hxs) fun bs bs' hbs => ?_
    exact congrArg Except.ok (by rw [List.map_cons, List.map_cons, hb, hbs])

end SchemaDecl
