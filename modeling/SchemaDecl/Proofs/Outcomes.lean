import SchemaDecl.Proofs.Returns

/-! What computations come to: values of one kind, or errors of one kind. Of computations on a state, that
both keep what holds of it. Parts that come to such outcomes are put together to a whole that does. -/

namespace SchemaDecl

variable {ε α β σ : Type}

/-! ### Computations that may fail -/

/-- The outcome is a value of one kind or an error of one kind. -/
inductive Settles (E : ε → Prop) (P : α → Prop) : Except ε α → Prop
  | ok {a : α} (h : P a) : Settles E P (.ok a)
  | error {e : ε} (h : E e) : Settles E P (.error e)

section Settles

variable {E : ε → Prop} {P : α → Prop} {Q : β → Prop} {x : Except ε α}

theorem Settles.of_ok {a : α} (h : Settles E P (.ok a)) : P a := by
  cases h with
  | ok h => exact h

theorem Settles.of_error {e : ε} (h : Settles E P (.error e)) : E e := by
  cases h with
  | error h => exact h

theorem Settles.imp {E' : ε → Prop} {P' : α → Prop} (h : Settles E P x) (hE : ∀ e, E e → E' e)
    (hP : ∀ a, P a → P' a) : Settles E' P' x := by
  cases h with
  | ok h => exact .ok (hP _ h)
  | error h => exact .error (hE _ h)

theorem Settles.bind {f : α → Except ε β} (h : Settles E P x) (hf : ∀ a, P a → Settles E Q (f a)) :
    Settles E Q (x >>= f) := by
  cases h with
  | ok h => exact hf _ h
  | error h => exact .error h

theorem Settles.ite {p : Prop} [Decidable p] {y : Except ε α} (hx : Settles E P x)
    (hy : Settles E P y) : Settles E P (if p then x else y) := by
  split
  · exact hx
  · exact hy

end Settles

/-! ### Computations on a state -/

section Keeps

variable {I : σ → Prop} {E : ε → Prop} {P : α → Prop} {Q : β → Prop}

/-- From a state of which something holds come a value of one kind and a state of which it still holds, or
an error of one kind. -/
def Keeps (I : σ → Prop) (E : ε → Prop) (P : α → Prop) (x : StateT σ (Except ε) α) : Prop :=
  ∀ s, I s → Settles E (fun p => P p.1 ∧ I p.2) (x s)

theorem keeps_pure {a : α} (h : P a) : Keeps I E P (pure a : StateT σ (Except ε) α) :=
  fun _ hs => .ok ⟨h, hs⟩

theorem keeps_throw {e : ε} (h : E e) : Keeps I E P (throw e : StateT σ (Except ε) α) :=
  fun _ _ => .error h

theorem keeps_get : Keeps I E I (get : StateT σ (Except ε) σ) :=
  fun _ hs => .ok ⟨hs, hs⟩

theorem keeps_modify {f : σ → σ} (h : ∀ s, I s → I (f s)) :
    Keeps I E (fun _ => True) (modify f : StateT σ (Except ε) PUnit) :=
  fun s hs => .ok ⟨trivial, h s hs⟩

theorem Keeps.imp {P' : α → Prop} {x : StateT σ (Except ε) α} (h : Keeps I E P x)
    (hP : ∀ a, P a → P' a) : Keeps I E P' x :=
  fun s hs => (h s hs).imp (fun _ he => he) fun _ hp => ⟨hP _ hp.1, hp.2⟩

theorem Keeps.bind {x : StateT σ (Except ε) α} {f : α → StateT σ (Except ε) β} (h : Keeps I E P x)
    (hf : ∀ a, P a → Keeps I E Q (f a)) : Keeps I E Q (x >>= f) :=
  fun s hs => (h s hs).bind fun p hp => hf p.1 hp.1 p.2 hp.2

theorem keeps_forM {f : α → StateT σ (Except ε) PUnit} {xs : List α}
    (hf : ∀ a ∈ xs, Keeps I E (fun _ => True) (f a)) : Keeps I E (fun _ => True) (xs.forM f) := by
  induction xs with
  | nil => exact keeps_pure trivial
  | cons a xs ih =>
    obtain ⟨ha, hxs⟩ := List.forall_mem_cons.1 hf
    exact ha.bind fun _ _ => ih hxs

theorem keeps_mapM {f : α → StateT σ (Except ε) β} {xs : List α} (hf : ∀ a ∈ xs, Keeps I E Q (f a)) :
    Keeps I E (fun bs => ∀ b ∈ bs, Q b) (xs.mapM f) := by
  induction xs with
  | nil => exact keeps_pure (by simp)
  | cons a xs ih =>
    obtain ⟨ha, hxs⟩ := List.forall_mem_cons.1 hf
    rw [List.mapM_cons]
    exact ha.bind fun b hb => (ih hxs).bind fun bs hbs =>
      keeps_pure (List.forall_mem_cons.2 ⟨hb, hbs⟩)

theorem keeps_findM? {f : α → StateT σ (Except ε) Bool} {xs : List α}
    (hf : ∀ a ∈ xs, Keeps I E (fun b => b = true → P a) (f a)) :
    Keeps I E (fun o => ∀ a, o = some a → P a) (xs.findM? f) := by
  induction xs with
  | nil => exact keeps_pure (by simp)
  | cons a xs ih =>
    obtain ⟨ha, hxs⟩ := List.forall_mem_cons.1 hf
    rw [List.findM?]
    refine ha.bind fun b hb => ?_
    split
    · exact keeps_pure fun _ heq => Option.some.inj heq ▸ hb rfl
    · exact ih hxs

end Keeps

end SchemaDecl
