import Mathlib.Data.List.Lattice
import Mathlib.Data.List.Pairwise
import SchemaDecl.Proofs.Generation.Files
import SchemaDecl.Proofs.Synthesis.Rules

/-! What the index of a run exports: the registry, and for each declaration its symbol and, for a
record, the function that lifts to it. The name of that function is made from the symbol and is compared
with no other name. So names are exported once exactly when no declaration has the name of such a
function for its symbol, and then each of them stands for one module. -/

namespace SchemaDecl

open Identifier (ofName)

namespace Emitter

/-- A name is exported for the lift of one symbol at most. -/
theorem liftName_inj {t : Target} {a b : String} : liftName t a = liftName t b ↔ a = b := by
  refine ⟨fun h => ?_, fun h => congrArg _ h⟩
  cases t <;> exact String.append_right_inj _ |>.1 h

theorem liftName_ne_registry (t : Target) (a : String) : liftName t a ≠ Registry.symbol := by
  intro h
  have hlist := congrArg (fun s => s.toList.head?) h
  cases t <;> simp [liftName, Registry.symbol] at hlist

/-- A lift is not called by its own symbol. -/
theorem liftName_ne_self (t : Target) (a : String) : liftName t a ≠ a := by
  intro h
  have hlength := congrArg String.length h
  cases t <;> simp [liftName, String.length_append] at hlength

end Emitter

namespace Generation

open Registry (Entry)

variable {doc : Document} {settings : Settings} {previous : List Entry} {g : Generation}

/-! ### Modules and their exports -/

/-- When nothing stands twice in lists behind one another, an item is in one of them. -/
theorem eq_of_mem_flatMap {α β : Type} {f : α → List β} {xs : List α} (h : (xs.flatMap f).Nodup)
    {a b : α} (ha : a ∈ xs) (hb : b ∈ xs) {s : β} (hsa : s ∈ f a) (hsb : s ∈ f b) : a = b := by
  by_contra hne
  have hsymm : Std.Symm (Function.onFun List.Disjoint f) := ⟨fun _ _ hd => List.Disjoint.symm hd⟩
  exact (List.nodup_flatMap.1 h).2.forall ha hb hne hsa hsb

/-- What the module of a definition exports. -/
def exportsOf (t : Target) (name : String) (x : Definition) : List String :=
  if x.isObject then [ofName name, Emitter.liftName t (ofName name)] else [ofName name]

theorem mem_exportsOf {t : Target} {name s : String} {x : Definition} :
    s ∈ exportsOf t name x ↔
      s = ofName name ∨ x.isObject ∧ s = Emitter.liftName t (ofName name) := by
  unfold exportsOf
  split <;> simp_all

theorem nodup_exportsOf (t : Target) (name : String) (x : Definition) : (exportsOf t name x).Nodup := by
  unfold exportsOf
  split
  · simpa using (Emitter.liftName_ne_self t (ofName name)).symm
  · simp

theorem exports_of_declared (hg : (run doc settings previous).result = .ok g) (ht : doc.Textual)
    (hn : doc.names.Nodup) {name : String} {x : Definition} (hx : (.text name, x) ∈ doc.entries)
    {m : Module} (hm : (.text name, m) ∈ declared doc g) :
    m.exports = exportsOf settings.target name x := by
  obtain ⟨s, hs, hmodule⟩ := exists_type_of_declared hg ht hn hx hm
  rw [(Emitter.declares_of_declaration hmodule).exports_eq, Synthesis.isRecord_of_ofSchema hs]
  rfl

theorem exports_index_eq_flatMap (hg : (run doc settings previous).result = .ok g) :
    g.index.exports = (g.registryModule :: g.declarations).flatMap Module.exports := by
  obtain ⟨-, hg⟩ := run_eq_ok hg
  obtain ⟨out, -, hg⟩ := map_eq_ok hg
  rw [← hg]
  rfl

theorem exports_index (hg : (run doc settings previous).result = .ok g) (ht : doc.Textual)
    (hn : doc.names.Nodup) :
    g.index.exports = Registry.symbol :: (declared doc g).flatMap fun p => p.2.exports := by
  have hregistry : g.registryModule.exports = [Registry.symbol] := by
    obtain ⟨-, hg⟩ := run_eq_ok hg
    obtain ⟨out, -, hg⟩ := map_eq_ok hg
    rw [← hg]
    rfl
  rw [exports_index_eq_flatMap hg, List.flatMap_cons, hregistry, ← map_snd_declared hg ht hn,
    List.flatMap_map]
  rfl

/-! ### Names that are exported twice -/

/-- The symbols of a document are different from each other and from that of the registry. -/
structure Symbolic (doc : Document) : Prop where
  injective : ∀ a b, .text a ∈ doc.names → .text b ∈ doc.names → ofName a = ofName b → a = b
  registry : ∀ a, .text a ∈ doc.names → ofName a ≠ Registry.symbol

/-- A declaration has the name of the function that lifts to a record for its symbol. -/
def Shadows (doc : Document) (t : Target) (g : Generation) : Prop :=
  ∃ a x b, (.text a, x) ∈ doc.entries ∧ x.isObject ∧ Declared doc g a ∧ Declared doc g b ∧
    ofName b = Emitter.liftName t (ofName a)

theorem exists_entry (hg : (run doc settings previous).result = .ok g) (ht : doc.Textual)
    (hn : doc.names.Nodup) {p : Name × Module} (hp : p ∈ declared doc g) :
    ∃ name x, p.1 = .text name ∧ (.text name, x) ∈ doc.entries ∧ .text name ∈ doc.names ∧
      Declared doc g name ∧ p.2.exports = exportsOf settings.target name x := by
  obtain ⟨n, m⟩ := p
  obtain ⟨name, x, rfl, hx⟩ := exists_entry_of_declared hg ht hn hp
  exact ⟨name, x, rfl, hx, List.mem_map.2 ⟨_, hx, rfl⟩, ⟨m, hp⟩, exports_of_declared hg ht hn hx hp⟩

theorem registry_notMem_exports (hg : (run doc settings previous).result = .ok g) (ht : doc.Textual)
    (hn : doc.names.Nodup) (hs : Symbolic doc) :
    Registry.symbol ∉ (declared doc g).flatMap fun p => p.2.exports := by
  rw [List.mem_flatMap]
  rintro ⟨p, hp, hm⟩
  obtain ⟨name, x, -, -, hname, -, hexports⟩ := exists_entry hg ht hn hp
  rw [hexports, mem_exportsOf] at hm
  rcases hm with h | ⟨-, h⟩
  · exact hs.registry name hname h.symm
  · exact Emitter.liftName_ne_registry _ _ h.symm

/-- Two declarations export different names unless one shadows the lift of the other. -/
theorem disjoint_exports (hg : (run doc settings previous).result = .ok g) (ht : doc.Textual)
    (hn : doc.names.Nodup) (hs : Symbolic doc) (hshadow : ¬Shadows doc settings.target g)
    {p q : Name × Module} (hp : p ∈ declared doc g) (hq : q ∈ declared doc g) (hpq : p.1 ≠ q.1) :
    p.2.exports.Disjoint q.2.exports := by
  obtain ⟨a, x, ha, hax, han, had, hae⟩ := exists_entry hg ht hn hp
  obtain ⟨b, y, hb, hby, hbn, hbd, hbe⟩ := exists_entry hg ht hn hq
  have hab : a ≠ b := by
    rintro rfl
    exact hpq (ha.trans hb.symm)
  intro s hsp hsq
  rw [hae, mem_exportsOf] at hsp
  rw [hbe, mem_exportsOf] at hsq
  rcases hsp with rfl | ⟨hx, rfl⟩ <;> rcases hsq with h | ⟨hy, h⟩
  · exact hab (hs.injective a b han hbn h)
  · exact hshadow ⟨b, y, a, hby, hy, hbd, had, h⟩
  · exact hshadow ⟨a, x, b, hax, hx, had, hbd, h.symm⟩
  · exact hab (hs.injective a b han hbn (Emitter.liftName_inj.1 h))

theorem nodup_exports_iff (hg : (run doc settings previous).result = .ok g) (ht : doc.Textual)
    (hn : doc.names.Nodup) (hs : Symbolic doc) :
    g.index.exports.Nodup ↔ ¬Shadows doc settings.target g := by
  constructor
  · rintro hnodup ⟨a, x, b, hx, hobj, ⟨m, hm⟩, ⟨m', hm'⟩, hb⟩
    obtain ⟨y, hy, -⟩ := (mem_declared_iff hg ht hn).1 hm'
    have hlift : ofName b ∈ m.exports := by
      rw [exports_of_declared hg ht hn hx hm, mem_exportsOf]
      exact Or.inr ⟨hobj, hb⟩
    have hown : ofName b ∈ m'.exports := by
      rw [exports_of_declared hg ht hn hy hm', mem_exportsOf]
      exact Or.inl rfl
    rw [exports_index hg ht hn, List.nodup_cons] at hnodup
    cases eq_of_mem_flatMap hnodup.2 hm hm' hlift hown
    exact Emitter.liftName_ne_self _ _ hb.symm
  · intro hshadow
    rw [exports_index hg ht hn, List.nodup_cons, List.nodup_flatMap]
    have hnames := nodup_map_fst_declared (g := g) hn
    refine ⟨registry_notMem_exports hg ht hn hs, fun p hp => ?_, ?_⟩
    · obtain ⟨name, x, -, -, -, -, hexports⟩ := exists_entry hg ht hn hp
      rw [hexports]
      exact nodup_exportsOf _ _ _
    · refine (List.pairwise_map.1 hnames).imp_of_mem fun hp hq hpq => ?_
      exact disjoint_exports hg ht hn hs hshadow hp hq hpq

/-- The index of a run exports the registry and, declaration by declaration, its symbol and for a record
its lift. When the symbols of the document are different from each other and from that of the registry,
no name is exported twice exactly when no declaration shadows the lift of a record; and then every name
that is exported stands for one module. -/
theorem exports_of_run (doc : Document) (settings : Settings) (previous : List Entry) (g : Generation)
    (hg : (run doc settings previous).result = .ok g) (ht : doc.Textual) (hn : doc.names.Nodup)
    (hs : Symbolic doc) :
    g.index.exports = Registry.symbol :: ((declared doc g).flatMap fun p => p.2.exports) ∧
    (∀ name x m, (.text name, x) ∈ doc.entries → (.text name, m) ∈ declared doc g →
      m.exports = exportsOf settings.target name x) ∧
    (g.index.exports.Nodup ↔ ¬Shadows doc settings.target g) ∧
    (¬Shadows doc settings.target g → ∀ s ∈ g.index.exports,
      ∃! m, m ∈ g.registryModule :: g.declarations ∧ s ∈ m.exports) := by
  refine ⟨exports_index hg ht hn, fun name x m hx hm => exports_of_declared hg ht hn hx hm,
    nodup_exports_iff hg ht hn hs, fun hshadow s hmem => ?_⟩
  have hnodup := (nodup_exports_iff hg ht hn hs).2 hshadow
  rw [exports_index_eq_flatMap hg] at hnodup hmem
  obtain ⟨m, hm, hsm⟩ := List.mem_flatMap.1 hmem
  exact ⟨m, ⟨hm, hsm⟩, fun m' ⟨hm', hsm'⟩ => eq_of_mem_flatMap hnodup hm' hm hsm' hsm⟩

/-- An object, and a text by another name. -/
def besideObject (name : String) : Document :=
  ⟨[(.text "A", { Definition.blank with type := some "object" }),
    (.text name, { Definition.blank with type := some "string" })]⟩

theorem textual_besideObject (name : String) : (besideObject name).Textual := by
  simp [besideObject]

theorem symbolic_besideObject (name : String) (hs : ofName "A" ≠ ofName name)
    (ha : ofName "A" ≠ Registry.symbol) (hr : ofName name ≠ Registry.symbol) :
    (besideObject name).names.Nodup ∧ Symbolic (besideObject name) := by
  have hnames : (besideObject name).names = [.text "A", .text name] := rfl
  have hne : "A" ≠ name := fun h => hs (congrArg ofName h)
  refine ⟨by simp [hnames, hne], ⟨fun a b => ?_, fun a => ?_⟩⟩
  · simp only [hnames, List.mem_cons, Name.text.injEq, List.not_mem_nil, or_false]
    rintro (rfl | rfl) (rfl | rfl) h
    · rfl
    · exact absurd h hs
    · exact absurd h.symm hs
    · rfl
  · simp only [hnames, List.mem_cons, Name.text.injEq, List.not_mem_nil, or_false]
    rintro (rfl | rfl)
    · exact ha
    · exact hr

/-- What is exported beside an object. -/
def exportsBeside (name : String) : Option (List String) :=
  (run (besideObject name) { } []).result.toOption.map fun g => g.index.exports

theorem exists_run_besideObject {name : String} {exports : List String}
    (h : exportsBeside name = some exports) :
    ∃ g, (run (besideObject name) { } []).result = .ok g ∧ g.index.exports = exports := by
  obtain ⟨g, hg, hexports⟩ := Option.map_eq_some_iff.1 h
  exact ⟨g, eq_ok_of_toOption hg, hexports⟩

theorem exports_of_run_lifting :
    ∃ g, (run (besideObject "lifting") { } []).result = .ok g ∧
      g.index.exports = ["TypeRegistry", "A", "lift_A", "lifting"] ∧
      ∀ s ∈ g.index.exports, ∃! m, m ∈ g.registryModule :: g.declarations ∧ s ∈ m.exports := by
  obtain ⟨hn, hs⟩ := symbolic_besideObject "lifting" (by decide) (by decide) (by decide)
  obtain ⟨g, hg, hexports⟩ := exists_run_besideObject
    (show exportsBeside "lifting" = some ["TypeRegistry", "A", "lift_A", "lifting"] by decide +kernel)
  have hrun := exports_of_run _ { } [] g hg (textual_besideObject _) hn hs
  exact ⟨g, hg, hexports, hrun.2.2.2 (hrun.2.2.1.1 (hexports ▸ by decide))⟩

/-- A definition with the name of a lift is exported beside it, under the same name. -/
theorem exports_of_run_lift :
    ∃ g, (run (besideObject "lift_A") { } []).result = .ok g ∧
      (besideObject "lift_A").names.Nodup ∧ Symbolic (besideObject "lift_A") ∧
      g.index.exports = ["TypeRegistry", "A", "lift_A", "lift_A"] ∧ ¬g.index.exports.Nodup := by
  obtain ⟨hn, hs⟩ := symbolic_besideObject "lift_A" (by decide) (by decide) (by decide)
  obtain ⟨g, hg, hexports⟩ := exists_run_besideObject
    (show exportsBeside "lift_A" = some ["TypeRegistry", "A", "lift_A", "lift_A"] by decide +kernel)
  exact ⟨g, hg, hn, hs, hexports, hexports ▸ by decide⟩

end Generation

end SchemaDecl
