import SchemaDecl.Proofs.Registry.Build

/-! Registries of one run after another, each built on the entries of the one before. What a document
declares keeps its entry as long as every later document declares it too, and two such entries keep
their order; building once more for the same document changes nothing. -/

namespace SchemaDecl.Registry

open Document Identifier

/-! ### One build -/

theorem ext_entries {r s : Registry} (h : r.entries = s.entries) : r = s := by
  cases r
  cases s
  cases h
  rfl

/-- Items that do not occur behind a list occur in their order in it. -/
theorem sublist_append_iff_of_not_mem {α : Type} {xs ys zs : List α} (h : ∀ x ∈ xs, x ∉ zs) :
    xs.Sublist (ys ++ zs) ↔ xs.Sublist ys := by
  constructor
  · intro hs
    obtain ⟨front, back, rfl, hfront, hback⟩ := List.sublist_append_iff.1 hs
    obtain rfl : back = [] := List.eq_nil_iff_forall_not_mem.2 fun x hx =>
      h x (List.mem_append_right _ hx) (hback.subset hx)
    rwa [List.append_nil]
  · exact fun hs => hs.trans (List.sublist_append_left _ _)

section Step

variable {d : Document} {previous : List Entry} {r : Registry}

theorem mem_entries_of_build (hn : d.Textual) (h : (build d previous).result = .ok r) {e : Entry}
    (he : e ∈ previous) (hd : d.Declares e.discriminant) : e ∈ r.entries := by
  obtain ⟨added, -, hr⟩ := entries_of_build hn h
  rw [hr]
  exact List.mem_append_left _ (mem_survivors.2 ⟨he, hd⟩)

/-- Two discriminants of the earlier entries that are still declared keep their order. -/
theorem pair_sublist_of_build (hn : d.Textual) (h : (build d previous).result = .ok r) {t u : String}
    (ht : t ∈ previous.map Entry.discriminant) (hu : u ∈ previous.map Entry.discriminant)
    (hdt : d.Declares t) (hdu : d.Declares u) :
    [t, u].Sublist (r.entries.map Entry.discriminant) ↔
      [t, u].Sublist (previous.map Entry.discriminant) := by
  obtain ⟨added, ha, hr⟩ := entries_of_build hn h
  have hpair : [t, u].filter (fun x => d.discriminants.contains x) = [t, u] := by
    simp [mem_discriminants, hdt, hdu]
  have hnot : ∀ x ∈ [t, u], x ∉ added.map Entry.discriminant :=
    List.forall_mem_cons.2 ⟨ha.discriminant_not_mem ht,
      List.forall_mem_singleton.2 (ha.discriminant_not_mem hu)⟩
  rw [hr, List.map_append, sublist_append_iff_of_not_mem hnot, map_discriminant_survivors]
  constructor
  · exact fun hs => hs.trans List.filter_sublist
  · intro hs
    rw [← hpair]
    exact hs.filter _

theorem wellFormed_of_build (hn : d.Textual) (h : (build d previous).result = .ok r)
    (hp : ∀ e ∈ previous, WellFormed e.identifier) : ∀ e ∈ r.entries, WellFormed e.identifier := by
  obtain ⟨added, ha, hr⟩ := entries_of_build hn h
  intro e he
  rw [hr, List.mem_append] at he
  rcases he with he | he
  · exact hp e (mem_survivors.1 he).1
  · obtain ⟨s, -, hs⟩ := ha.suffixed e he
    exact hs.wellFormed (ofName_wellFormed s)

/-- Building on the entries of a registry of the same document gives this registry. -/
theorem build_again (hn : d.Textual) (h : (build d previous).result = .ok r) :
    (build d r.entries).result = .ok r := by
  obtain ⟨s, hs⟩ := exists_build hn r.identifiers_nodup r.discriminants_nodup
  obtain ⟨added, ha, he⟩ := entries_of_build hn hs
  have hall : survivors d r.entries = r.entries := by
    refine List.filter_eq_self.2 fun e hm => ?_
    rw [List.contains_iff_mem, mem_discriminants, ← exists_identifierFor_iff_declares hn h]
    exact ⟨e.identifier, identifierFor_eq_some_iff.2 hm⟩
  have hnone : added = [] := by
    rw [← List.map_eq_nil_iff (f := Entry.discriminant), ha.discriminants_eq, List.filter_eq_nil_iff]
    intro t ht
    rw [mem_discriminants, ← exists_identifierFor_iff_declares hn h, exists_identifierFor_iff] at ht
    simp [ht]
  rw [hs, ext_entries (r := s) (s := r) (by rw [he, hall, hnone, List.append_nil])]

end Step

/-! ### Many builds -/

/-- The registries of documents, each built on the entries of the one before. -/
def history (previous : List Entry) : List Document → Run (List Registry)
  | [] => pure []
  | d :: rest => do
    let r ← build d previous
    return r :: (← history r.entries rest)

/-- The same as a relation. -/
inductive Chain : List Entry → List Document → List Registry → Prop
  | nil {previous : List Entry} : Chain previous [] []
  | cons {previous : List Entry} {d : Document} {r : Registry} {ds : List Document}
      {rs : List Registry} (hn : d.Textual) (h : (build d previous).result = .ok r)
      (rest : Chain r.entries ds rs) : Chain previous (d :: ds) (r :: rs)

theorem exists_history {ds : List Document} (hn : ∀ d ∈ ds, d.Textual) {previous : List Entry}
    (hi : (previous.map Entry.identifier).Nodup) (hd : (previous.map Entry.discriminant).Nodup) :
    ∃ rs, (history previous ds).result = .ok rs ∧ Chain previous ds rs := by
  induction ds generalizing previous with
  | nil => exact ⟨[], rfl, .nil⟩
  | cons d ds ih =>
    obtain ⟨r, hr⟩ := exists_build (hn d List.mem_cons_self) hi hd
    obtain ⟨rs, hrs, hc⟩ := ih (fun d h => hn d (List.mem_cons_of_mem _ h)) r.identifiers_nodup
      r.discriminants_nodup
    refine ⟨r :: rs, ?_, .cons (hn d List.mem_cons_self) hr hc⟩
    simp only [history, Run.result_bind, hr, hrs, Except.bind, Run.result_pure]

namespace Chain

variable {previous : List Entry} {ds : List Document} {rs : List Registry}

theorem length_eq (h : Chain previous ds rs) : rs.length = ds.length := by
  induction h with
  | nil => rfl
  | cons _ _ _ ih => rw [List.length_cons, List.length_cons, ih]

theorem build_eq_ok (h : Chain previous ds rs) {i : Nat} {d : Document} {r : Registry}
    (hd : ds[i]? = some d) (hr : rs[i]? = some r) :
    d.Textual ∧ ∃ before, (build d before).result = .ok r := by
  induction h generalizing i with
  | nil => cases hd
  | cons hn hb _ ih =>
    cases i with
    | zero =>
      cases hd
      cases hr
      exact ⟨hn, _, hb⟩
    | succ i => exact ih hd hr

/-- What follows a registry is a chain on its entries. -/
theorem drop (h : Chain previous ds rs) {i : Nat} {r : Registry} (hr : rs[i]? = some r) :
    Chain r.entries (ds.drop (i + 1)) (rs.drop (i + 1)) := by
  induction h generalizing i with
  | nil => cases hr
  | cons _ _ hrest ih =>
    cases i with
    | zero =>
      cases hr
      exact hrest
    | succ i => exact ih hr

theorem wellFormed (h : Chain previous ds rs) (hp : ∀ e ∈ previous, WellFormed e.identifier) :
    ∀ r ∈ rs, ∀ e ∈ r.entries, WellFormed e.identifier := by
  induction h with
  | nil => simp
  | cons hn hb _ ih =>
    have hr := wellFormed_of_build hn hb hp
    intro r hm
    rcases List.mem_cons.1 hm with rfl | hm
    · exact hr
    · exact ih hr r hm

/-- An entry stays as long as its discriminant is declared. -/
theorem mem_entries (h : Chain previous ds rs) {e : Entry} (he : e ∈ previous) {n : Nat}
    (hd : ∀ k ≤ n, ∀ d, ds[k]? = some d → d.Declares e.discriminant) {r : Registry}
    (hr : rs[n]? = some r) : e ∈ r.entries := by
  induction h generalizing n with
  | nil => cases hr
  | cons hn hb _ ih =>
    have hm := mem_entries_of_build hn hb he (hd 0 (Nat.zero_le n) _ rfl)
    cases n with
    | zero =>
      cases hr
      exact hm
    | succ n => exact ih hm (fun k hk d => hd (k + 1) (Nat.succ_le_succ hk) d) hr

/-- Two entries stay in their order as long as both discriminants are declared. -/
theorem pair_sublist_iff (h : Chain previous ds rs) {t u : String}
    (ht : t ∈ previous.map Entry.discriminant) (hu : u ∈ previous.map Entry.discriminant) {n : Nat}
    (hd : ∀ k ≤ n, ∀ d, ds[k]? = some d → d.Declares t ∧ d.Declares u) {r : Registry}
    (hr : rs[n]? = some r) :
    [t, u].Sublist (r.entries.map Entry.discriminant) ↔
      [t, u].Sublist (previous.map Entry.discriminant) := by
  induction h generalizing n with
  | nil => cases hr
  | @cons _ d s _ _ hn hb _ ih =>
    obtain ⟨hdt, hdu⟩ := hd 0 (Nat.zero_le n) d rfl
    have hstep := pair_sublist_of_build hn hb ht hu hdt hdu
    have hmem : ∀ x, d.Declares x → x ∈ s.entries.map Entry.discriminant := fun x hx =>
      exists_identifierFor_iff.1 ((exists_identifierFor_iff_declares hn hb).2 hx)
    cases n with
    | zero =>
      cases hr
      exact hstep
    | succ n =>
      rw [← hstep]
      exact ih (hmem t hdt) (hmem u hdu) (fun k hk d => hd (k + 1) (Nat.succ_le_succ hk) d) hr

end Chain

end SchemaDecl.Registry
