import SchemaDecl.Proofs.Generation.Outcome
import SchemaDecl.Proofs.Registry.History

/-! Runs on one document after another. The earlier entries reach the modules through the registry
alone, so a run on the entries of its own registry repeats itself; and along a history of documents
no discriminant changes its identifier, or its place before or behind another one, as long as it is
declared. -/

namespace SchemaDecl.Generation

open Registry (Entry history Chain)

/-- A run on the entries of its own registry repeats itself. -/
theorem run_again {doc : Document} (hn : doc.Textual) {settings : Settings} {previous : List Entry}
    {g : Generation} (h : (run doc settings previous).result = .ok g) :
    (run doc settings g.registry.entries).result = .ok g := by
  obtain ⟨hr, hg⟩ := run_eq_ok h
  rw [run_result, Registry.build_again hn hr]
  exact hg

/-! ### Histories -/

/-- All documents from one number to another declare a discriminant. -/
def DeclaredFrom (ds : List Document) (i j : Nat) (tag : String) : Prop :=
  ∀ k d, i ≤ k → k ≤ j → ds[k]? = some d → d.Declares tag

/-- What the registries of a history promise to those who use the modules. -/
structure Lasting (ds : List Document) (rs : List Registry) : Prop where
  length_eq : rs.length = ds.length
  wellFormed : ∀ r ∈ rs, ∀ e ∈ r.entries, Identifier.WellFormed e.identifier
  identifier : ∀ {i j : Nat} {tag : String} {a b : Registry}, i ≤ j → DeclaredFrom ds i j tag →
    rs[i]? = some a → rs[j]? = some b →
    ∃ identifier, a.identifierFor tag = some identifier ∧ b.identifierFor tag = some identifier
  order : ∀ {i j : Nat} {t u : String} {a b : Registry}, i ≤ j → DeclaredFrom ds i j t →
    DeclaredFrom ds i j u → rs[i]? = some a → rs[j]? = some b →
    ([t, u].Sublist (a.entries.map Entry.discriminant) ↔
      [t, u].Sublist (b.entries.map Entry.discriminant))
  again : ∀ {i : Nat} {d : Document} {r : Registry}, ds[i]? = some d → rs[i]? = some r →
    ∀ {settings : Settings} {previous : List Entry} {g : Generation},
      (run d settings previous).result = .ok g → g.registry = r →
      (run d settings r.entries).result = .ok g

section Chain

variable {previous : List Entry} {ds : List Document} {rs : List Registry}

/-- There is a document for every registry. -/
theorem getElem?_of_chain (h : Chain previous ds rs) {i : Nat} {a : Registry} (ha : rs[i]? = some a) :
    ∃ d, ds[i]? = some d := by
  obtain ⟨hi, -⟩ := List.getElem?_eq_some_iff.1 ha
  rw [h.length_eq] at hi
  exact ⟨ds[i], List.getElem?_eq_getElem hi⟩

theorem mem_discriminants_of_chain (h : Chain previous ds rs) {i j : Nat} {tag : String} {a : Registry}
    (hij : i ≤ j) (hd : DeclaredFrom ds i j tag) (ha : rs[i]? = some a) :
    tag ∈ a.entries.map Entry.discriminant := by
  obtain ⟨d, hg⟩ := getElem?_of_chain h ha
  obtain ⟨hn, before, hb⟩ := h.build_eq_ok hg ha
  rw [← Registry.exists_identifierFor_iff, Registry.exists_identifierFor_iff_declares hn hb]
  exact hd i d (Nat.le_refl i) hij hg

theorem getElem?_drop_of_lt {α : Type} {xs : List α} {i j : Nat} (h : i < j) :
    (xs.drop (i + 1))[j - (i + 1)]? = xs[j]? := by
  rw [List.getElem?_drop, Nat.add_sub_cancel' h]

/-- The documents behind the one with number `i` declare what all declare from there on. -/
theorem declared_drop {i j : Nat} {tag : String} (hij : i < j) (hd : DeclaredFrom ds i j tag) :
    ∀ k ≤ j - (i + 1), ∀ d, (ds.drop (i + 1))[k]? = some d → d.Declares tag := by
  intro k hk d hg
  rw [List.getElem?_drop] at hg
  exact hd (i + 1 + k) d (by omega) (by omega) hg

theorem identifier_of_chain (h : Chain previous ds rs) {i j : Nat} {tag : String} {a b : Registry}
    (hij : i ≤ j) (hd : DeclaredFrom ds i j tag) (ha : rs[i]? = some a) (hb : rs[j]? = some b) :
    ∃ identifier, a.identifierFor tag = some identifier ∧ b.identifierFor tag = some identifier := by
  obtain ⟨⟨identifier, _⟩, hm, rfl⟩ := List.mem_map.1 (mem_discriminants_of_chain h hij hd ha)
  refine ⟨identifier, Registry.identifierFor_eq_some_iff.2 hm, ?_⟩
  rw [Registry.identifierFor_eq_some_iff]
  rcases Nat.eq_or_lt_of_le hij with rfl | hlt
  · rw [ha] at hb
    cases hb
    exact hm
  · exact (h.drop ha).mem_entries hm (declared_drop hlt hd) ((getElem?_drop_of_lt hlt).trans hb)

theorem order_of_chain (h : Chain previous ds rs) {i j : Nat} {t u : String} {a b : Registry}
    (hij : i ≤ j) (ht : DeclaredFrom ds i j t) (hu : DeclaredFrom ds i j u) (ha : rs[i]? = some a)
    (hb : rs[j]? = some b) :
    [t, u].Sublist (a.entries.map Entry.discriminant) ↔
      [t, u].Sublist (b.entries.map Entry.discriminant) := by
  rcases Nat.eq_or_lt_of_le hij with rfl | hlt
  · rw [ha] at hb
    cases hb
    exact Iff.rfl
  · have hta := mem_discriminants_of_chain h hij ht ha
    have hua := mem_discriminants_of_chain h hij hu ha
    refine ((h.drop ha).pair_sublist_iff hta hua ?_ ((getElem?_drop_of_lt hlt).trans hb)).symm
    exact fun k hk d hg => ⟨declared_drop hlt ht k hk d hg, declared_drop hlt hu k hk d hg⟩

end Chain

/-- Documents one after another get registries that keep identifiers and order, and repeat
themselves. -/
theorem exists_lasting_history (ds : List Document) (hn : ∀ d ∈ ds, d.Textual) :
    ∃ rs, (history [] ds).result = .ok rs ∧ Lasting ds rs := by
  obtain ⟨rs, hrs, hc⟩ := @Registry.exists_history ds hn [] List.nodup_nil List.nodup_nil
  refine ⟨rs, hrs, ?_⟩
  exact
    { length_eq := hc.length_eq
      wellFormed := hc.wellFormed (by simp)
      identifier := identifier_of_chain hc
      order := order_of_chain hc
      again := by
        rintro i d r hd hr settings previous g hg rfl
        exact run_again (hc.build_eq_ok hd hr).1 hg }

/-- Three documents. The second one puts a definition with the same identifier in front, and the third
renames a definition and drops another one. -/
def years : List Document :=
  [⟨[(.text "Order", .tagged "order"), (.text "Item", .tagged "item")]⟩,
    ⟨[(.text "Or-der", .tagged "rest"), (.text "Order", .tagged "order"), (.text "Or_der", .blank),
      (.text "Item", .tagged "item")]⟩,
    ⟨[(.text "Or-der", .tagged "item"), (.text "Order", .tagged "order")]⟩]

theorem exists_lasting_history_years :
    ∃ rs, (history [] years).result = .ok rs ∧ Lasting years rs ∧
      ∀ a b, rs[0]? = some a → rs[2]? = some b →
        (∃ identifier, a.identifierFor "item" = some identifier ∧
          b.identifierFor "item" = some identifier) ∧
        (["order", "item"].Sublist (a.entries.map Entry.discriminant) ↔
          ["order", "item"].Sublist (b.entries.map Entry.discriminant)) := by
  obtain ⟨rs, hrs, hl⟩ := exists_lasting_history years (by simp [years])
  have hdeclared : ∀ tag ∈ ["order", "item"], DeclaredFrom years 0 2 tag := by
    intro tag ht k d _ hk hd
    obtain rfl | rfl | rfl : k = 0 ∨ k = 1 ∨ k = 2 := by omega
    all_goals
      cases hd
      rw [← Document.mem_discriminants]
      revert tag
      decide
  refine ⟨rs, hrs, hl, fun a b ha hb => ⟨?_, ?_⟩⟩
  · exact hl.identifier (by decide) (hdeclared "item" (by decide)) ha hb
  · exact hl.order (by decide) (hdeclared "order" (by decide)) (hdeclared "item" (by decide)) ha hb

end SchemaDecl.Generation
