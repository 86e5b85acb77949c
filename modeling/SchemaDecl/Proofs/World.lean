import SchemaDecl.Proofs.Files.Tree
import SchemaDecl.World

/-! How work ends in a world: its outcome, and the world that it leaves. Work that returns has gone
through all its parts; of what it asked about files the answers are those of the tree of files. -/

namespace SchemaDecl

/-! ### Work on a state -/

/-- The outcome and the state after it, whatever was said on the way. -/
def Act.Yields {σ α : Type} (a : Act σ α) (s : σ) (r : Except Fault α) (s' : σ) : Prop :=
  ∃ notices, a s = (⟨notices, r⟩, s')

theorem Act.yields_bind {σ α β : Type} {a : Act σ α} {f : α → Act σ β} {s s' : σ} {r : Except Fault β} :
    Act.Yields (a >>= f) s r s' ↔
      (∃ x t, a.Yields s (.ok x) t ∧ (f x).Yields t r s') ∨
        ∃ e, a.Yields s (.error e) s' ∧ r = .error e := by
  rcases h : a s with ⟨⟨notices, x | x⟩, t⟩
  · have hbind := Act.bind_of_error (f := f) h
    constructor
    · rintro ⟨ns, hr⟩
      rw [hbind] at hr
      cases hr
      exact Or.inr ⟨x, ⟨notices, h⟩, rfl⟩
    · rintro (⟨y, u, ⟨ns, hy⟩, -⟩ | ⟨e, ⟨ns, he⟩, rfl⟩)
      · rw [h] at hy
        cases hy
      · rw [h] at he
        cases he
        exact ⟨notices, hbind⟩
  · have hbind := Act.bind_of_ok (f := f) h
    constructor
    · rintro ⟨ns, hr⟩
      rw [hbind] at hr
      cases hr
      exact Or.inl ⟨x, t, ⟨notices, h⟩, _, rfl⟩
    · rintro (⟨y, u, ⟨ns, hy⟩, ns', hf⟩ | ⟨e, ⟨ns, he⟩, -⟩)
      · rw [h] at hy
        cases hy
        exact ⟨notices ++ ns', by rw [hbind, hf]⟩
      · rw [h] at he
        cases he

namespace World

variable {σ α β : Type} {carry : Transport σ} {w w' : World σ}

/-! ### Work in a world -/

/-- Work comes to an outcome in a world and leaves another one. -/
def Ends (carry : Transport σ) (x : Work α) (w : World σ) (r : Except Fault α) (w' : World σ) : Prop :=
  (perform carry x).Yields w r w'

/-- Work that comes to a result in a world ends there. -/
theorem exists_ends {x : Work α} (h : (perform carry x w).1.result.isOk) :
    ∃ a, Ends carry x w (.ok a) (perform carry x w).2 := by
  cases hr : (perform carry x w).1.result with
  | error e =>
    rw [hr] at h
    cases h
  | ok a => exact ⟨a, (perform carry x w).1.notices, by rw [← hr]⟩

theorem ends_done {r r' : Except Fault α} : Ends carry (.done r) w r' w' ↔ r' = r ∧ w' = w := by
  constructor
  · rintro ⟨ns, h⟩
    cases h
    exact ⟨rfl, rfl⟩
  · rintro ⟨rfl, rfl⟩
    exact ⟨[], rfl⟩

theorem ends_tell {n : Notice} {x : Work α} {r : Except Fault α} :
    Ends carry (.tell n x) w r w' ↔ Ends carry x w r w' := by
  refine Act.yields_bind.trans ⟨?_, fun h => Or.inl ⟨(), w, ⟨[n], rfl⟩, h⟩⟩
  rintro (⟨u, v, ⟨ns, hn⟩, h⟩ | ⟨e, ⟨ns, hn⟩, -⟩)
  · cases hn
    exact h
  · cases hn

theorem ends_ask {q : Query} {next : q.Answer → Work α} {r : Except Fault α} :
    Ends carry (.ask q next) w r w' ↔
      (∃ a v, (answer carry q).Yields w (.ok a) v ∧ Ends carry (next a) v r w') ∨
        ∃ e, (answer carry q).Yields w (.error e) w' ∧ r = .error e :=
  Act.yields_bind

theorem ends_bind {x : Work α} {f : α → Work β} {r : Except Fault β} :
    Ends carry (x >>= f) w r w' ↔
      (∃ a v, Ends carry x w (.ok a) v ∧ Ends carry (f a) v r w') ∨
        ∃ e, Ends carry x w (.error e) w' ∧ r = .error e := by
  induction x generalizing w with
  | done result =>
    cases result with
    | error e =>
      refine ends_done.trans ⟨fun ⟨hr, hw⟩ => Or.inr ⟨e, ends_done.2 ⟨rfl, hw⟩, hr⟩, ?_⟩
      rintro (⟨a, v, h, -⟩ | ⟨e', h, rfl⟩)
      · cases (ends_done.1 h).1
      · obtain ⟨he, rfl⟩ := ends_done.1 h
        cases he
        exact ⟨rfl, rfl⟩
    | ok a =>
      refine ⟨fun h => Or.inl ⟨a, w, ends_done.2 ⟨rfl, rfl⟩, h⟩, ?_⟩
      rintro (⟨a', v, h, hf⟩ | ⟨e, h, -⟩)
      · obtain ⟨ha, rfl⟩ := ends_done.1 h
        cases ha
        exact hf
      · cases (ends_done.1 h).1
  | tell n next ih =>
    refine ends_tell.trans (ih.trans ?_)
    simp only [ends_tell]
  | ask q next ih =>
    refine ends_ask.trans ?_
    constructor
    · rintro (⟨a, v, ha, h⟩ | ⟨e, he, rfl⟩)
      · rcases (ih a).1 h with ⟨b, u, hb, hf⟩ | ⟨e, he, rfl⟩
        · exact Or.inl ⟨b, u, ends_ask.2 (Or.inl ⟨a, v, ha, hb⟩), hf⟩
        · exact Or.inr ⟨e, ends_ask.2 (Or.inl ⟨a, v, ha, he⟩), rfl⟩
      · exact Or.inr ⟨e, ends_ask.2 (Or.inr ⟨e, he, rfl⟩), rfl⟩
    · rintro (⟨b, u, hb, hf⟩ | ⟨e, he, rfl⟩)
      · rcases ends_ask.1 hb with ⟨a, v, ha, hb⟩ | ⟨e, -, he⟩
        · exact Or.inl ⟨a, v, ha, (ih a).2 (Or.inl ⟨b, u, hb, hf⟩)⟩
        · cases he
      · rcases ends_ask.1 he with ⟨a, v, ha, hb⟩ | ⟨e', ha, he⟩
        · exact Or.inl ⟨a, v, ha, (ih a).2 (Or.inr ⟨e, hb, rfl⟩)⟩
        · cases he
          exact Or.inr ⟨e, ha, rfl⟩

/-- Work that returns has returned from its first part. -/
theorem ends_bind_ok {x : Work α} {f : α → Work β} {b : β} :
    Ends carry (x >>= f) w (.ok b) w' ↔
      ∃ a v, Ends carry x w (.ok a) v ∧ Ends carry (f a) v (.ok b) w' := by
  refine ends_bind.trans ⟨?_, Or.inl⟩
  rintro (h | ⟨e, -, he⟩)
  · exact h
  · cases he

theorem ends_pure {a b : α} : Ends carry (pure a) w (.ok b) w' ↔ b = a ∧ w' = w := by
  refine ends_done.trans ?_
  rw [Except.ok.injEq]

theorem ends_ofExcept {r : Except Fault α} {a : α} :
    Ends carry (Work.ofExcept r) w (.ok a) w' ↔ r = .ok a ∧ w' = w := by
  refine ends_done.trans (and_congr_left fun _ => ?_)
  exact eq_comm

theorem ends_ofRun {x : Run α} {r : Except Fault α} :
    Ends carry (Work.ofRun x) w r w' ↔ r = x.result ∧ w' = w := by
  obtain ⟨notices, result⟩ := x
  rw [Work.ofRun]
  induction notices with
  | nil => exact ends_done
  | cons n notices ih => exact ends_tell.trans ih

theorem ends_query {q : Query} {a : q.Answer} (h : Ends carry (Work.query q) w (.ok a) w') :
    (answer carry q).Yields w (.ok a) w' := by
  rcases ends_ask.1 h with ⟨b, v, hb, h⟩ | ⟨e, -, he⟩
  · obtain ⟨rfl, rfl⟩ := ends_pure.1 h
    exact hb
  · cases he

/-! ### Questions about files -/

/-- A question that leaves the world as it is goes on with its answer. -/
theorem ends_ask_of_answer {q : Query} {a : q.Answer} (ha : answer carry q w = (⟨[], .ok a⟩, w))
    {next : q.Answer → Work α} {r : Except Fault α} :
    Ends carry (.ask q next) w r w' ↔ Ends carry (next a) w r w' := by
  refine ends_ask.trans ⟨?_, fun h => Or.inl ⟨a, w, ⟨[], ha⟩, h⟩⟩
  rintro (⟨b, v, ⟨ns, hb⟩, h⟩ | ⟨e, ⟨ns, hb⟩, -⟩)
  · cases ha.symm.trans hb
    exact h
  · cases ha.symm.trans hb

theorem ends_ask_kind {p : Path} {next : Except FileFault (Option FileKind) → Work α}
    {r : Except Fault α} :
    Ends carry (.ask (.kind p) next) w r w' ↔
      Ends carry (next (w.files.kind (w.place p))) w r w' :=
  ends_ask_of_answer rfl

theorem ends_ask_read {p : Path} {next : Except FileFault (List UInt8) → Work α}
    {r : Except Fault α} :
    Ends carry (.ask (.read p) next) w r w' ↔
      Ends carry (next (w.files.read (w.place p))) w r w' :=
  ends_ask_of_answer rfl

theorem yields_change {f : World σ → Except FileFault (α × Files)} {r : Except FileFault α}
    (h : (change f).Yields w (.ok r) w') :
    (∃ x fs, f w = .ok (x, fs) ∧ r = .ok x ∧ w' = { w with files := fs }) ∨
      ∃ e, f w = .error e ∧ r = .error e ∧ w' = w := by
  have hget : Act.get w = (⟨[], .ok w⟩, w) := rfl
  obtain ⟨ns, h⟩ := h
  rw [change, Act.bind_of_ok hget] at h
  cases hf : f w with
  | error e =>
    rw [hf] at h
    cases h
    exact Or.inr ⟨e, rfl, rfl, rfl⟩
  | ok p =>
    rw [hf] at h
    cases h
    exact Or.inl ⟨p.1, p.2, rfl, rfl, rfl⟩

end World

end SchemaDecl
