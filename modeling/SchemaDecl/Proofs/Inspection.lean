import SchemaDecl.Inspection
import SchemaDecl.Proofs.Emission.Imports
import SchemaDecl.Proofs.Generation.Order
import SchemaDecl.Proofs.Synthesis.Membership

/-! The listing of a document beside a run on it. Both take every definition through the same rules, but
with registries of their own, which differ as soon as the run goes on from an earlier one. Since a
registry decides about members alone, the listing says of each definition what becomes of it in the
run: its error, or the dependencies of its module. -/

namespace SchemaDecl.Inspection

open List (Forall₂)
open Registry (Entry)
open Generation (declare declared emitterOf run)

/-! ### Cells -/

/-- What a cell shows of dependencies: nothing is shown where there are none, or where the empty name
is the only one. -/
def cellOf (deps : List String) : String :=
  if deps = [] ∨ deps = [""] then "-" else ", ".intercalate deps

theorem intercalate_eq_empty {deps : List String} :
    ", ".intercalate deps = "" ↔ deps = [] ∨ deps = [""] := by
  match deps with
  | [] => simp
  | [name] => simp
  | name :: next :: rest => simp [String.intercalate_cons_cons]

theorem blank_intercalate (deps : List String) : blank (", ".intercalate deps) = cellOf deps := by
  unfold blank cellOf
  by_cases h : ", ".intercalate deps = ""
  · rw [if_pos (by simpa using h), if_pos (intercalate_eq_empty.1 h)]
  · rw [if_neg (by simpa using h), if_neg (mt intercalate_eq_empty.2 h)]

theorem kindOf_ne_invalid (d : Document) (name : Name) (x : Definition) :
    kindOf d name x ≠ "invalid" := by
  unfold kindOf
  split_ifs <;> decide

/-! ### Rows -/

variable {doc : Document} {g : Generation} {settings : Settings} {previous : List Entry}

/-- A row says what became of its definition in a run. -/
structure Row.Reports (doc : Document) (g : Generation) (x : Name × Definition) (row : Row) :
    Prop where
  name_eq : row.name = x.1
  invalid_iff : row.kind = "invalid" ↔ ∃ err, (x.1, err) ∈ g.failures
  error : ∀ err, (x.1, err) ∈ g.failures → row.dependencies = err.message
  dependencies : row.kind ≠ "invalid" → ∃ m, (x.1, m) ∈ declared doc g ∧ row.dependencies = cellOf m.deps

/-- With whatever registry a definition is listed, it gets a row, and this reports on the run. -/
theorem exists_row (hd : doc.Plain) (hg : (run doc settings previous).result = .ok g) (r : Registry)
    {x : Name × Definition} (hx : x ∈ doc.entries) :
    ∃ row, Inspection.row doc r x.1 x.2 = .ok row ∧ Row.Reports doc g x row := by
  obtain ⟨n, d⟩ := x
  obtain ⟨name, rfl : n = .text name⟩ := hd.textual _ hx
  have hsame := Synthesis.deps_ofSchema doc (some g.registry) (some r) name d
  unfold Inspection.row
  rcases (Generation.outcomes_of_run hg).module_or_failure hx with ⟨m, -, hm⟩ | ⟨err, herr, he⟩
  · obtain ⟨s, hs, hmodule⟩ := Generation.declare_eq_module.1 hm
    rw [hs] at hsame
    obtain ⟨s', hs', hdeps⟩ := map_eq_ok hsame.symm
    have hfree : ∀ err, (.text name, err) ∉ g.failures := by
      intro err hmem
      obtain ⟨d', hd', he⟩ := (Generation.mem_failures_iff hg).1 hmem
      rw [← Document.eq_of_mem_entries hd.nodup hx hd', hm] at he
      cases he
    rw [hs']
    refine ⟨_, rfl, rfl, ⟨fun h => absurd h (kindOf_ne_invalid _ _ _), ?_⟩, ?_, fun _ => ⟨m, ?_, ?_⟩⟩
    · rintro ⟨err, herr⟩
      exact absurd herr (hfree err)
    · exact fun err herr => absurd herr (hfree err)
    · exact (Generation.mem_declared_iff hg hd.textual hd.nodup).2 ⟨d, hx, hm⟩
    · rw [(Emitter.declares_of_declaration hmodule).deps_eq, ← hdeps]
      exact blank_intercalate _
  · rw [Generation.declare_eq_error.1 he] at hsame
    rw [map_eq_error hsame.symm]
    refine ⟨_, rfl, rfl, iff_of_true rfl ⟨err, herr⟩, ?_, fun h => absurd rfl h⟩
    intro err' herr'
    obtain ⟨d', hd', he'⟩ := (Generation.mem_failures_iff hg).1 herr'
    rw [← Document.eq_of_mem_entries hd.nodup hx hd', he] at he'
    cases he'
    rfl

/-- Rows come out in the order of the definitions when each of them has one. -/
theorem exists_rowsOf {r : Registry} {P : Name × Definition → Row → Prop}
    {entries : List (Name × Definition)}
    (h : ∀ x ∈ entries, ∃ row, Inspection.row doc r x.1 x.2 = .ok row ∧ P x row) :
    ∃ rs, rowsOf doc r entries = .ok rs ∧ Forall₂ P entries rs := by
  induction entries with
  | nil => exact ⟨[], rfl, .nil⟩
  | cons x rest ih =>
    obtain ⟨⟨row, hrow, hx⟩, hrest⟩ := List.forall_mem_cons.1 h
    obtain ⟨rs, hrs, hall⟩ := ih hrest
    refine ⟨row :: rs, ?_, .cons hx hall⟩
    rw [rowsOf, hrow, hrs]
    rfl

/-! ### The listing of a document -/

/-- A listing has one row for each definition, in their order. A row is invalid when a run that keeps
going records an error for its definition, which the row then shows, and otherwise it shows the
dependencies of the module that the run makes, although the registry of the listing knows nothing of
the earlier run. -/
theorem rows_report_run (d : Document) (hd : d.FromJson) (settings : Settings)
    (previous : List Entry) (hi : (previous.map Entry.identifier).Nodup)
    (ht : (previous.map Entry.discriminant).Nodup) :
    ∃ rs g, (rows d).result = .ok rs ∧
      (run d { settings with keepGoing := true } previous).result = .ok g ∧
      Forall₂ (Row.Reports d g) d.entries rs := by
  have hp := hd.plain
  obtain ⟨g, hg⟩ := Generation.exists_run hp settings hi ht
  obtain ⟨r, hr⟩ : ∃ r, (Registry.build d []).result = .ok r :=
    Registry.exists_build hp.textual .nil .nil
  obtain ⟨rs, hrs, hall⟩ := exists_rowsOf fun x hx => exists_row hp hg r hx
  refine ⟨rs, g, ?_, hg, hall⟩
  rw [rows, Run.result_bind, hr]
  exact hrs

theorem rows_report_run_fleet :
    ∃ rs g, (rows Generation.fleet).result = .ok rs ∧
      (run Generation.fleet { keepGoing := true } [⟨"Old", "/car"⟩, ⟨"Gone", "/gone"⟩]).result = .ok g ∧
      rs.map Row.kind = ["record", "record", "alias", "invalid"] ∧
      Forall₂ (Row.Reports Generation.fleet g) Generation.fleet.entries rs := by
  obtain ⟨rs, g, hrs, hg, hall⟩ := rows_report_run Generation.fleet Generation.fromJson_fleet {}
    [⟨"Old", "/car"⟩, ⟨"Gone", "/gone"⟩] (by decide) (by decide)
  have hkinds : (rows Generation.fleet).result.toOption.map (List.map Row.kind) =
      some ["record", "record", "alias", "invalid"] := by
    decide +kernel
  rw [hrs] at hkinds
  exact ⟨rs, g, hrs, hg, Option.some.inj hkinds, hall⟩

/-- A text without a name, and a reference to it. -/
def nameless : Document :=
  ⟨[(.text "", { Definition.blank with type := some "string" }),
    (.text "A", { Definition.blank with ref := some "" })]⟩

theorem fromJson_nameless : nameless.FromJson := by
  have hvalue : Value.OfTexts (.object
      [("", .object [("type", .text "string")]), ("A", .object [("$ref", .text "")])]) := by
    simp
  exact Document.fromJson_of_ofTexts hvalue rfl

/-- The module of the reference has a dependency, and its row says that there is none. -/
theorem rows_nameless :
    nameless.FromJson ∧ ∃ rs g m, (rows nameless).result = .ok rs ∧
      (run nameless { keepGoing := true } []).result = .ok g ∧
      (.text "A", m) ∈ declared nameless g ∧ m.deps = [""] ∧ ", ".intercalate m.deps = "" ∧
      rs.map Row.name = [.text "", .text "A"] ∧ rs.map Row.dependencies = ["-", "-"] := by
  have hrows : ∃ rs, (rows nameless).result = .ok rs ∧
      rs.map Row.name = [.text "", .text "A"] ∧ rs.map Row.dependencies = ["-", "-"] :=
    ⟨_, rfl, rfl, by decide⟩
  have hrun : ∃ g m, (run nameless { keepGoing := true } []).result = .ok g ∧
      (.text "A", m) ∈ declared nameless g ∧ m.deps = [""] :=
    ⟨_, _, rfl, List.mem_cons_of_mem _ List.mem_cons_self, by decide⟩
  obtain ⟨rs, hrs, hnames, hcells⟩ := hrows
  obtain ⟨g, m, hg, hm, hdeps⟩ := hrun
  exact ⟨fromJson_nameless, rs, g, m, hrs, hg, hm, hdeps, by rw [hdeps]; rfl, hnames, hcells⟩

end SchemaDecl.Inspection
