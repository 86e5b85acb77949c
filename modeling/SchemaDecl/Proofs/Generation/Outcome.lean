import SchemaDecl.Generation
import SchemaDecl.Proofs.Document.Names
import SchemaDecl.Proofs.Returns

/-! What comes of a run. The registry is built first and everything else is made of it: each definition
gets a module or an error, in the order of the document, and a run that does not keep going ends with
the first error. -/

namespace SchemaDecl.Generation

open Registry (Entry)

/-- The result of a run from its registry, the modules of the definitions and the errors. -/
def assembled (settings : Settings) (registry : Registry)
    (out : List Module × List (Name × SchemaError)) : Generation :=
  let e := emitterOf settings
  { registry
    declarations := out.1
    registryModule := e.registry registry
    index := e.index (e.registry registry :: out.1)
    failures := out.2 }

/-- What a run makes of its document once the registry is there. -/
def ofRegistry (doc : Document) (settings : Settings) (registry : Registry) :
    Except Fault Generation :=
  (declareAll doc registry (emitterOf settings) settings.keepGoing doc.entries).result.map
    (assembled settings registry)

theorem run_result (doc : Document) (settings : Settings) (previous : List Entry) :
    (run doc settings previous).result =
      (Registry.build doc previous).result.bind (ofRegistry doc settings) := by
  rw [run, Run.result_bind]
  congr 1
  funext registry
  simp only [Run.result_bind, Run.tell, Except.bind, ofRegistry]
  cases (declareAll doc registry (emitterOf settings) settings.keepGoing doc.entries).result <;> rfl

/-- A run that returns has built its registry and made the modules of it. -/
theorem run_eq_ok {doc : Document} {settings : Settings} {previous : List Entry} {g : Generation}
    (h : (run doc settings previous).result = .ok g) :
    (Registry.build doc previous).result = .ok g.registry ∧
      ofRegistry doc settings g.registry = .ok g := by
  rw [run_result] at h
  obtain ⟨r, hr, hg⟩ := bind_eq_ok h
  obtain ⟨out, -, rfl⟩ := map_eq_ok hg
  exact ⟨hr, hg⟩

/-! ### Definition by definition -/

variable {doc : Document} {registry : Registry} {e : Emitter} {keepGoing : Bool}

theorem declare_eq_module {name : Name} {d : Definition} {m : Module} :
    declare doc registry e name d = .ok (.ok m) ↔
      ∃ s, Synthesis.ofSchema doc (some registry) name d = .ok s ∧ e.declaration name d s = .ok m := by
  unfold declare
  cases hs : Synthesis.ofSchema doc (some registry) name d with
  | ok s =>
    cases hm : e.declaration name d s <;> simp [hm, Except.map]
  | error f => cases f <;> simp

theorem declare_eq_error {name : Name} {d : Definition} {err : SchemaError} :
    declare doc registry e name d = .ok (.error err) ↔
      Synthesis.ofSchema doc (some registry) name d = .error (.schema err) := by
  unfold declare
  cases hs : Synthesis.ofSchema doc (some registry) name d with
  | ok s =>
    cases hm : e.declaration name d s <;> simp [hm, Except.map]
  | error f => cases f <;> simp

/-- The first definition is declared before the others, and its error decides how to go on. -/
theorem declareAll_cons (name : Name) (d : Definition) (rest : List (Name × Definition)) :
    (declareAll doc registry e keepGoing ((name, d) :: rest)).result =
      declare doc registry e name d >>= fun
        | .ok m =>
          (declareAll doc registry e keepGoing rest).result >>= fun out => .ok (m :: out.1, out.2)
        | .error err =>
          if keepGoing then
            (declareAll doc registry e keepGoing rest).result >>= fun out =>
              .ok (out.1, (name, err) :: out.2)
          else .error (.failure (.schema err)) := by
  rw [declareAll, Run.result_bind, Run.ofExcept]
  congr 1
  funext o
  cases o with
  | ok m =>
    dsimp only
    rw [Run.result_bind]
    rfl
  | error err =>
    cases keepGoing with
    | false => rfl
    | true =>
      simp only [if_true, Run.result_bind, Run.tell, Except.bind]
      rfl

/-- The modules and errors of definitions, each of which has the one or the other. -/
inductive Outcomes (doc : Document) (registry : Registry) (e : Emitter) (keepGoing : Bool) :
    List (Name × Definition) → List Module → List (Name × SchemaError) → Prop
  | nil : Outcomes doc registry e keepGoing [] [] []
  | module {name : Name} {d : Definition} {m : Module} {rest : List (Name × Definition)}
      {ms : List Module} {fs : List (Name × SchemaError)}
      (h : declare doc registry e name d = .ok (.ok m))
      (hrest : Outcomes doc registry e keepGoing rest ms fs) :
      Outcomes doc registry e keepGoing ((name, d) :: rest) (m :: ms) fs
  | failure {name : Name} {d : Definition} {err : SchemaError} {rest : List (Name × Definition)}
      {ms : List Module} {fs : List (Name × SchemaError)} (hk : keepGoing)
      (h : declare doc registry e name d = .ok (.error err))
      (hrest : Outcomes doc registry e keepGoing rest ms fs) :
      Outcomes doc registry e keepGoing ((name, d) :: rest) ms ((name, err) :: fs)

theorem outcomes_of_declareAll {entries : List (Name × Definition)} {ms : List Module}
    {fs : List (Name × SchemaError)}
    (h : (declareAll doc registry e keepGoing entries).result = .ok (ms, fs)) :
    Outcomes doc registry e keepGoing entries ms fs := by
  induction entries generalizing ms fs with
  | nil =>
    cases h
    exact .nil
  | cons x rest ih =>
    obtain ⟨name, d⟩ := x
    rw [declareAll_cons] at h
    obtain ⟨o, ho, h⟩ := bind_eq_ok h
    cases o with
    | ok m =>
      obtain ⟨⟨ms', fs'⟩, hrest, h⟩ := bind_eq_ok h
      cases h
      exact .module ho (ih hrest)
    | error err =>
      dsimp only at h
      split at h
      next hk =>
        obtain ⟨⟨ms', fs'⟩, hrest, h⟩ := bind_eq_ok h
        cases h
        exact .failure hk ho (ih hrest)
      next => cases h

/-- To keep going is to return, unless something other than an error of the schema stands in the way of
a definition. -/
theorem declareAll_ok_or_error (doc : Document) (registry : Registry) (e : Emitter)
    (entries : List (Name × Definition)) :
    (∃ out, (declareAll doc registry e true entries).result = .ok out) ∨
      ∃ x ∈ entries, ∃ f, declare doc registry e x.1 x.2 = .error f ∧
        (declareAll doc registry e true entries).result = .error f := by
  induction entries with
  | nil => exact Or.inl ⟨_, rfl⟩
  | cons x rest ih =>
    obtain ⟨name, d⟩ := x
    rw [declareAll_cons]
    cases ho : declare doc registry e name d with
    | error f => exact Or.inr ⟨_, List.mem_cons_self, f, ho, rfl⟩
    | ok o =>
      rcases ih with ⟨out, hout⟩ | ⟨x, hx, f, hf, hout⟩
      · rw [hout]
        cases o <;> exact Or.inl ⟨_, rfl⟩
      · rw [hout]
        refine Or.inr ⟨x, List.mem_cons_of_mem _ hx, f, hf, ?_⟩
        cases o <;> rfl

/-! ### Modules with the names of their definitions -/

/-- The names that have no error. -/
def faultless (fs : List (Name × SchemaError)) (names : List Name) : List Name :=
  names.filter fun n => !(fs.any fun f => f.1.same n)

/-- The modules of the definitions that have no error, each with the name of its definition. -/
def declared (doc : Document) (g : Generation) : List (Name × Module) :=
  (faultless g.failures doc.names).zip g.declarations

/-- The module of a definition, if it has one, with its name. -/
def moduleOf? (doc : Document) (registry : Registry) (e : Emitter) (x : Name × Definition) :
    Option (Name × Module) :=
  match declare doc registry e x.1 x.2 with
  | .ok (.ok m) => some (x.1, m)
  | _ => none

theorem moduleOf?_eq_some {x : Name × Definition} {n : Name} {m : Module} :
    moduleOf? doc registry e x = some (n, m) ↔
      x.1 = n ∧ declare doc registry e x.1 x.2 = .ok (.ok m) := by
  unfold moduleOf?
  split
  next m' h => simp [h]
  next h =>
    constructor
    · rintro ⟨⟩
    · rintro ⟨-, hm⟩
      exact absurd hm (h m)

/-- The error of a definition, if it has one, with its name. -/
def errorOf? (doc : Document) (registry : Registry) (e : Emitter) (x : Name × Definition) :
    Option (Name × SchemaError) :=
  match declare doc registry e x.1 x.2 with
  | .ok (.error err) => some (x.1, err)
  | _ => none

theorem errorOf?_eq_some {x : Name × Definition} {n : Name} {err : SchemaError} :
    errorOf? doc registry e x = some (n, err) ↔
      x.1 = n ∧ declare doc registry e x.1 x.2 = .ok (.error err) := by
  unfold errorOf?
  split
  next err' h => simp [h]
  next h =>
    constructor
    · rintro ⟨⟩
    · rintro ⟨-, he⟩
      exact absurd he (h err)

namespace Outcomes

variable {entries : List (Name × Definition)} {ms : List Module} {fs : List (Name × SchemaError)}

/-- Every definition shows in what comes of a run: its module is there or its error. -/
theorem module_or_failure (h : Outcomes doc registry e keepGoing entries ms fs)
    {x : Name × Definition} (hx : x ∈ entries) :
    (∃ m ∈ ms, declare doc registry e x.1 x.2 = .ok (.ok m)) ∨
      ∃ err, (x.1, err) ∈ fs ∧ declare doc registry e x.1 x.2 = .ok (.error err) := by
  induction h with
  | nil => cases hx
  | module h _ ih =>
    rcases List.mem_cons.1 hx with rfl | hx
    · exact Or.inl ⟨_, List.mem_cons_self, h⟩
    · exact (ih hx).imp_left fun ⟨m, hm, hd⟩ => ⟨m, List.mem_cons_of_mem _ hm, hd⟩
  | failure _ h _ ih =>
    rcases List.mem_cons.1 hx with rfl | hx
    · exact Or.inr ⟨_, List.mem_cons_self, h⟩
    · exact (ih hx).imp_right fun ⟨err, he, hd⟩ => ⟨err, List.mem_cons_of_mem _ he, hd⟩

/-- Every module is that of a definition. -/
theorem exists_declare (h : Outcomes doc registry e keepGoing entries ms fs) {m : Module}
    (hm : m ∈ ms) : ∃ x ∈ entries, declare doc registry e x.1 x.2 = .ok (.ok m) := by
  induction h with
  | nil => cases hm
  | module h _ ih =>
    rcases List.mem_cons.1 hm with rfl | hm
    · exact ⟨_, List.mem_cons_self, h⟩
    · obtain ⟨x, hx, hd⟩ := ih hm
      exact ⟨x, List.mem_cons_of_mem _ hx, hd⟩
  | failure _ _ _ ih =>
    obtain ⟨x, hx, hd⟩ := ih hm
    exact ⟨x, List.mem_cons_of_mem _ hx, hd⟩

theorem failures_eq_nil (h : Outcomes doc registry e false entries ms fs) : fs = [] := by
  induction h with
  | nil => rfl
  | module _ _ ih => exact ih
  | failure hk => cases hk

/-- When the first error ends a run, every definition has its module. -/
theorem exists_module (h : Outcomes doc registry e false entries ms fs) {x : Name × Definition}
    (hx : x ∈ entries) : ∃ m ∈ ms, declare doc registry e x.1 x.2 = .ok (.ok m) := by
  rcases h.module_or_failure hx with hm | ⟨err, herr, -⟩
  · exact hm
  · rw [h.failures_eq_nil] at herr
    cases herr

theorem failures_subset (h : Outcomes doc registry e keepGoing entries ms fs) :
    ∀ f ∈ fs, f.1 ∈ entries.map Prod.fst := by
  induction h with
  | nil => simp
  | module _ _ ih => exact fun f hf => List.mem_cons_of_mem _ (ih f hf)
  | failure _ _ _ ih =>
    rw [List.forall_mem_cons]
    exact ⟨List.mem_cons_self, fun f hf => List.mem_cons_of_mem _ (ih f hf)⟩

theorem map_snd (h : Outcomes doc registry e keepGoing entries ms fs) :
    (entries.filterMap (moduleOf? doc registry e)).map Prod.snd = ms := by
  induction h with
  | nil => rfl
  | @module name d m _ _ _ h _ ih =>
    have hm : moduleOf? doc registry e (name, d) = some (name, m) := moduleOf?_eq_some.2 ⟨rfl, h⟩
    rw [List.filterMap_cons_some hm, List.map_cons, ih]
  | @failure name d _ _ _ _ _ h _ ih =>
    have hm : moduleOf? doc registry e (name, d) = none := by
      unfold moduleOf?
      rw [h]
    rw [List.filterMap_cons_none hm, ih]

theorem failures_eq (h : Outcomes doc registry e keepGoing entries ms fs) :
    fs = entries.filterMap (errorOf? doc registry e) := by
  induction h with
  | nil => rfl
  | @module name d _ _ _ _ h _ ih =>
    have he : errorOf? doc registry e (name, d) = none := by
      unfold errorOf?
      rw [h]
    rw [List.filterMap_cons_none he, ih]
  | @failure name d err _ _ _ _ h _ ih =>
    have he : errorOf? doc registry e (name, d) = some (name, err) :=
      errorOf?_eq_some.2 ⟨rfl, h⟩
    rw [List.filterMap_cons_some he, ih]

/-- The names without an error go with the modules one by one. -/
theorem zip_eq (h : Outcomes doc registry e keepGoing entries ms fs)
    (ht : Document.Textual ⟨entries⟩) (hn : (entries.map Prod.fst).Nodup) :
    (faultless fs (entries.map Prod.fst)).zip ms = entries.filterMap (moduleOf? doc registry e) := by
  induction h with
  | nil => rfl
  | @module name d m rest ms fs h hrest ih =>
    have hm : moduleOf? doc registry e (name, d) = some (name, m) := moduleOf?_eq_some.2 ⟨rfl, h⟩
    obtain ⟨hname, hrestText⟩ := List.forall_mem_cons.1 ht
    obtain ⟨hnot, hnodup⟩ := List.nodup_cons.1 hn
    have hfree : (fs.any fun f => f.1.same name) = false := by
      rw [List.any_eq_false]
      intro f hf hsame
      have hmem := hrest.failures_subset f hf
      obtain ⟨x, hx, hxf⟩ := List.mem_map.1 hmem
      rw [Name.same_iff (hxf ▸ hrestText x hx) hname] at hsame
      exact hnot (hsame ▸ hmem)
    rw [List.filterMap_cons_some hm, List.map_cons, faultless,
      List.filter_cons_of_pos (by simp [hfree]), List.zip_cons_cons, ← ih hrestText hnodup, faultless]
  | @failure name d err rest ms fs hk h hrest ih =>
    have hm : moduleOf? doc registry e (name, d) = none := by
      unfold moduleOf?
      rw [h]
    obtain ⟨hname, hrestText⟩ := List.forall_mem_cons.1 ht
    obtain ⟨hnot, hnodup⟩ := List.nodup_cons.1 hn
    have hsame : name.same name = true := (Name.same_iff hname hname).2 rfl
    rw [List.filterMap_cons_none hm, List.map_cons, faultless,
      List.filter_cons_of_neg (by simp [hsame]), ← ih hrestText hnodup, faultless]
    -- names stand once, so this error passes over no name behind it
    congr 1
    refine List.filter_congr fun n hnm => ?_
    obtain ⟨x, hx, rfl⟩ := List.mem_map.1 hnm
    have hother : name.same x.1 = false := by
      rw [Bool.eq_false_iff, Ne, Name.same_iff hname (hrestText x hx)]
      rintro rfl
      exact hnot hnm
    rw [List.any_cons, hother, Bool.false_or]

end Outcomes

section Run

variable {settings : Settings} {previous : List Entry} {g : Generation}

theorem outcomes_of_run (h : (run doc settings previous).result = .ok g) :
    Outcomes doc g.registry (emitterOf settings) settings.keepGoing doc.entries g.declarations
      g.failures := by
  obtain ⟨-, hg⟩ := run_eq_ok h
  obtain ⟨out, hout, hg⟩ := map_eq_ok hg
  rw [← hg]
  rw [← hg] at hout
  exact outcomes_of_declareAll hout

theorem declared_eq (h : (run doc settings previous).result = .ok g) (ht : doc.Textual)
    (hn : doc.names.Nodup) :
    declared doc g = doc.entries.filterMap (moduleOf? doc g.registry (emitterOf settings)) :=
  (outcomes_of_run h).zip_eq ht hn

/-- Every module of a run goes with the name of a definition. -/
theorem map_snd_declared (h : (run doc settings previous).result = .ok g) (ht : doc.Textual)
    (hn : doc.names.Nodup) : (declared doc g).map Prod.snd = g.declarations := by
  rw [declared_eq h ht hn, (outcomes_of_run h).map_snd]

theorem mem_declared_iff (h : (run doc settings previous).result = .ok g) (ht : doc.Textual)
    (hn : doc.names.Nodup) {n : Name} {m : Module} :
    (n, m) ∈ declared doc g ↔ ∃ d, (n, d) ∈ doc.entries ∧
      declare doc g.registry (emitterOf settings) n d = .ok (.ok m) := by
  rw [declared_eq h ht hn, List.mem_filterMap]
  constructor
  · rintro ⟨⟨n', d⟩, hm, hx⟩
    obtain ⟨rfl, hd⟩ := moduleOf?_eq_some.1 hx
    exact ⟨d, hm, hd⟩
  · rintro ⟨d, hm, hd⟩
    exact ⟨(n, d), hm, moduleOf?_eq_some.2 ⟨rfl, hd⟩⟩

/-- Every module belongs to a definition with a text for its name. -/
theorem exists_entry_of_declared (h : (run doc settings previous).result = .ok g) (ht : doc.Textual)
    (hn : doc.names.Nodup) {n : Name} {m : Module} (hm : (n, m) ∈ declared doc g) :
    ∃ name x, n = .text name ∧ (.text name, x) ∈ doc.entries := by
  obtain ⟨x, hx, -⟩ := (mem_declared_iff h ht hn).1 hm
  obtain ⟨name, hname⟩ := ht _ hx
  obtain rfl : n = .text name := hname
  exact ⟨name, x, rfl, hx⟩

theorem mem_failures_iff (h : (run doc settings previous).result = .ok g) {n : Name}
    {err : SchemaError} :
    (n, err) ∈ g.failures ↔ ∃ d, (n, d) ∈ doc.entries ∧
      declare doc g.registry (emitterOf settings) n d = .ok (.error err) := by
  rw [(outcomes_of_run h).failures_eq, List.mem_filterMap]
  constructor
  · rintro ⟨⟨n', d⟩, hm, hx⟩
    obtain ⟨rfl, hd⟩ := errorOf?_eq_some.1 hx
    exact ⟨d, hm, hd⟩
  · rintro ⟨d, hm, hd⟩
    exact ⟨(n, d), hm, errorOf?_eq_some.2 ⟨rfl, hd⟩⟩

/-- The module of a definition was written for the type of that definition. -/
theorem exists_type_of_declared (h : (run doc settings previous).result = .ok g) (ht : doc.Textual)
    (hn : doc.names.Nodup) {n : Name} {x : Definition} (hx : (n, x) ∈ doc.entries) {m : Module}
    (hm : (n, m) ∈ declared doc g) :
    ∃ s, Synthesis.ofSchema doc (some g.registry) n x = .ok s ∧
      (emitterOf settings).declaration n x s = .ok m := by
  obtain ⟨x', hx', hdeclare⟩ := (mem_declared_iff h ht hn).1 hm
  obtain ⟨name, hname⟩ := ht _ hx
  obtain rfl : n = .text name := hname
  obtain rfl := Document.eq_of_mem_entries hn hx hx'
  exact declare_eq_module.1 hdeclare

/-- In a run that ends with the first error, if there is one, every definition has a module. -/
theorem exists_declared (h : (run doc settings previous).result = .ok g) (ht : doc.Textual)
    (hn : doc.names.Nodup) (hk : settings.keepGoing = false) {n : Name} (hname : n ∈ doc.names) :
    ∃ m, (n, m) ∈ declared doc g := by
  obtain ⟨⟨n, x⟩, hx, rfl⟩ := List.mem_map.1 hname
  have ho := outcomes_of_run h
  rw [hk] at ho
  obtain ⟨m, -, hm⟩ := ho.exists_module hx
  exact ⟨m, (mem_declared_iff h ht hn).2 ⟨x, hx, hm⟩⟩

theorem mem_modules_of_declared (h : (run doc settings previous).result = .ok g) (ht : doc.Textual)
    (hn : doc.names.Nodup) {p : Name × Module} (hp : p ∈ declared doc g) : p.2 ∈ g.modules := by
  have hm : p.2 ∈ (declared doc g).map Prod.snd := List.mem_map_of_mem hp
  rw [map_snd_declared h ht hn] at hm
  exact List.mem_append_left _ hm

end Run

end SchemaDecl.Generation
