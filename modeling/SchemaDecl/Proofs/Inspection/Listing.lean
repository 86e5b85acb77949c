import SchemaDecl.Proofs.Files.Path
import SchemaDecl.Proofs.Inspection.Kind
import SchemaDecl.Proofs.Json.RoundTrip
import SchemaDecl.Proofs.Loading
import SchemaDecl.Proofs.Printing
import SchemaDecl.Proofs.Synthesis.Faults

/-! The listing as whoever pipes it sees it. A listing that comes about is all that is printed, and it has
a row for every definition in the order of the document. In JSON every table of texts is read as it was
written. The lines of a plain table are cut at line feeds and tabs, which nothing escapes, and so it is read
as it was written exactly if no cell holds one of the two, which names, discriminants and errors may. There
is no listing at all if the example of a property cannot be written. -/

namespace SchemaDecl

namespace Report

variable {headers : List String} {rows : List (List String)}

/-! ### Lines of cells -/

/-- The cells of a line. -/
def readLine (line : List Char) : List String :=
  (line.splitOn '\t').map String.ofList

/-- The rows of a table with a line for each of them. -/
def readTable (text : String) : List (List String) :=
  ((text.toList.splitOn '\n').dropLast).map readLine

/-- A cell that keeps to its place in a table of lines. -/
def Tame (cell : String) : Prop :=
  '\t' ∉ cell.toList ∧ '\n' ∉ cell.toList

/-- What is read of a table is tame, whatever the table holds. -/
theorem tame_of_mem_readTable {text : String} {row : List String} (hrow : row ∈ readTable text)
    {cell : String} (hcell : cell ∈ row) : Tame cell := by
  obtain ⟨line, hline, rfl⟩ := List.mem_map.1 hrow
  obtain ⟨part, hpart, rfl⟩ := List.mem_map.1 hcell
  have hfeed := notMem_of_mem_splitOn (List.dropLast_subset _ hline)
  rw [Tame, String.toList_ofList]
  exact ⟨notMem_of_mem_splitOn hpart, fun hc => hfeed (mem_of_mem_splitOn hpart hc)⟩

theorem readLine_intercalate {row : List String} (hne : row ≠ []) (h : ∀ cell ∈ row, Tame cell) :
    readLine ("\t".intercalate row).toList = row := by
  have htab : "\t".toList = ['\t'] := rfl
  have hcells : ∀ l ∈ row.map String.toList, '\t' ∉ l := by
    intro l hl
    obtain ⟨cell, hcell, rfl⟩ := List.mem_map.1 hl
    exact (h cell hcell).1
  rw [readLine, String.toList_intercalate, htab,
    List.splitOn_intercalate '\t' hcells (by simpa using hne), List.map_map]
  exact List.map_id'' (fun _ => String.ofList_toList) row

/-- A line without a line feed is one row. -/
theorem readTable_data {line : String} (h : '\n' ∉ line.toList) (rest : String) :
    readTable (data line ++ rest) = readLine line.toList :: readTable rest := by
  have htext : (data line ++ rest).toList = line.toList ++ '\n' :: rest.toList := by
    simp [data]
  rw [readTable, htext, List.splitOn_append_cons_self_of_not_mem h,
    List.dropLast_cons_of_ne_nil (List.splitOn_ne_nil _ _), List.map_cons]
  rfl

/-! ### Plain tables -/

/-- The text of a plain table. -/
def plainText (rows : List (List String)) : String :=
  String.join (rows.map fun row => data ("\t".intercalate row))

theorem plainRow_texts (row : List String) :
    plainRow (row.map .text) = some ("\t".intercalate row) := by
  have hcells : (row.map Value.text).mapM cellText? = some row := by
    rw [List.mapM_map]
    exact List.mapM_pure.trans (congrArg some (List.map_id row))
  rw [plainRow, hcells]
  rfl

theorem plainTable_texts (rows : List (List String)) :
    plainTable (rows.map (List.map .text)) = (plainText rows, true) := by
  induction rows with
  | nil => rfl
  | cons row rows ih =>
    rw [List.map_cons, plainTable, plainRow_texts]
    simp only [ih]
    rw [plainText, plainText, List.map_cons, String.join_cons]

theorem table_plain {r : Report} (hr : r.format = .plain) (headers : List String)
    (rows : List (List String)) :
    r.table headers (rows.map (List.map .text)) = (plainText (headers :: rows), true) := by
  rw [table, hr]
  exact plainTable_texts (headers :: rows)

/-- A plain table is read as it was written exactly if all of its cells are tame. -/
theorem readTable_plainText_iff (hne : ∀ row ∈ rows, row ≠ []) :
    readTable (plainText rows) = rows ↔ ∀ row ∈ rows, ∀ cell ∈ row, Tame cell := by
  constructor
  · intro h row hrow cell hcell
    rw [← h] at hrow
    exact tame_of_mem_readTable hrow hcell
  · intro h
    induction rows with
    | nil => rfl
    | cons row rows ih =>
      obtain ⟨hrow, hrows⟩ := List.forall_mem_cons.1 h
      obtain ⟨hcells, hne⟩ := List.forall_mem_cons.1 hne
      have hfeed : '\n' ∉ ("\t".intercalate row).toList := by
        rw [String.toList_intercalate, mem_intercalate (by decide)]
        rintro ⟨_, hpart, hc⟩
        obtain ⟨cell, hcell, rfl⟩ := List.mem_map.1 hpart
        exact (hrow cell hcell).2 hc
      rw [plainText, List.map_cons, String.join_cons, readTable_data hfeed,
        readLine_intercalate hcells hrow]
      exact congrArg (row :: ·) (ih hne hrows)

/-! ### Tables in JSON -/

theorem legible_listing : Json.Style.listing.Legible :=
  ⟨Or.inl rfl, Or.inr rfl, rfl⟩

/-- A row as an object of texts. -/
def objectOf (headers row : List String) : Value :=
  .object (headers.zip (row.map .text))

section Objects

variable (hn : headers.Nodup)
include hn

theorem nodup_fields {row : List String} (hrow : headers.length ≤ row.length) :
    ((headers.zip (row.map Value.text)).map Prod.fst).Nodup := by
  rwa [List.map_fst_zip (by simpa using hrow)]

theorem rowObject_texts {row : List String} (hrow : headers.length ≤ row.length) :
    rowObject headers (row.map .text) = objectOf headers row :=
  Value.ofEntries_fields (nodup_fields hn hrow)

theorem ofTexts_objectOf {row : List String} (hrow : headers.length ≤ row.length) :
    (objectOf headers row).OfTexts := by
  refine .object (nodup_fields hn hrow) fun f hf => ?_
  obtain ⟨cell, -, hcell⟩ := List.mem_map.1 (List.of_mem_zip hf).2
  rw [← hcell]
  exact .text cell

/-- A table of texts is read from JSON as it was written. -/
theorem read_jsonTable {r : Report} (hr : r.format = .json)
    (hrows : ∀ row ∈ rows, headers.length ≤ row.length) :
    ∃ text, r.table headers (rows.map (List.map .text)) = (text, true) ∧
      Json.read text = .ok (.list (rows.map (objectOf headers))) := by
  have hobjects : (rows.map (List.map Value.text)).map (rowObject headers) =
      rows.map (objectOf headers) := by
    rw [List.map_map]
    exact List.map_congr_left fun row hrow => rowObject_texts hn (hrows row hrow)
  have htexts : (Value.list (rows.map (objectOf headers))).OfTexts := by
    rw [Value.ofTexts_list_iff]
    intro v hv
    obtain ⟨row, hrow, rfl⟩ := List.mem_map.1 hv
    exact ofTexts_objectOf hn (hrows row hrow)
  obtain ⟨text, htext, -⟩ := Json.exists_writeAt_spells legible_listing htexts 0
  refine ⟨data text, ?_, (Json.read_of_write legible_listing htexts htext (by simp [Json.Gap])).1⟩
  rw [table, hr, hobjects]
  simp only [Json.write, htext]

end Objects

end Report

namespace Inspection

open List (Forall₂)
open World (Ends printed)

variable {doc : Document} {r : Registry}

/-! ### Rows -/

/-- The texts of a row. -/
def Row.texts (row : Row) : List String :=
  [row.name.display, row.kind, row.discriminant, row.dependencies]

theorem Row.cells_eq {row : Row} (h : ∃ s, row.name = .text s) : row.cells = row.texts.map .text := by
  obtain ⟨name, kind, discriminant, dependencies⟩ := row
  obtain ⟨s, rfl : name = .text s⟩ := h
  rfl

/-- A definition with a text for a name has its row, unless an example in it cannot be written. -/
theorem unwritable_of_row {s : String} {x : Definition} {f : Fault}
    (h : row doc r (.text s) x = .error f) :
    ∃ e, f = .ofWriteError e ∧ Synthesis.Reason (some (.text s)) x (.unwritable e) := by
  unfold row at h
  dsimp only at h
  cases hs : Synthesis.ofSchema doc (some r) (.text s) x with
  | ok type =>
    rw [hs] at h
    cases h
  | error fault =>
    rw [hs] at h
    have hreason := Synthesis.reason_of_ofSchema hs
    cases hreason with
    | schema e => cases h
    | unnamable hn => cases hn
    | unwritable hc hp hk he =>
      cases h
      exact ⟨_, rfl, .unwritable hc hp hk he⟩

theorem exists_rowsOf_or_error (entries : List (Name × Definition)) :
    (∃ rs, rowsOf doc r entries = .ok rs) ∨
      ∃ x ∈ entries, ∃ f, rowsOf doc r entries = .error f ∧ row doc r x.1 x.2 = .error f := by
  induction entries with
  | nil => exact Or.inl ⟨[], rfl⟩
  | cons x rest ih =>
    cases hx : row doc r x.1 x.2 with
    | error f =>
      refine Or.inr ⟨x, List.mem_cons_self, f, ?_, hx⟩
      rw [rowsOf, hx]
      rfl
    | ok listed =>
      rcases ih with ⟨rs, hrs⟩ | ⟨y, hy, f, hf, hrow⟩
      · refine Or.inl ⟨listed :: rs, ?_⟩
        rw [rowsOf, hx, hrs]
        rfl
      · refine Or.inr ⟨y, List.mem_cons_of_mem _ hy, f, ?_, hrow⟩
        rw [rowsOf, hx, hf]
        rfl

/-- Every definition of a document has its row, unless an example cannot be written. -/
theorem rows_or_unwritable (hn : doc.Textual) :
    ∃ r, (Registry.build doc []).result = .ok r ∧
      ((∃ rs, (rows doc).result = .ok rs ∧
          Forall₂ (fun x listed => row doc r x.1 x.2 = .ok listed) doc.entries rs) ∨
        ∃ x ∈ doc.entries, ∃ e, (rows doc).result = .error (.ofWriteError e) ∧
          Synthesis.Reason (some x.1) x.2 (.unwritable e)) := by
  obtain ⟨r, hr⟩ : ∃ r, (Registry.build doc []).result = .ok r :=
    Registry.exists_build hn .nil .nil
  have hrows : (rows doc).result = rowsOf doc r doc.entries := by
    rw [rows, Run.result_bind, hr]
    rfl
  refine ⟨r, hr, ?_⟩
  rw [hrows]
  rcases exists_rowsOf_or_error doc.entries with ⟨rs, hrs⟩ | ⟨⟨n, d⟩, hx, f, hf, hrow⟩
  · exact Or.inl ⟨rs, hrs, forall₂_of_rowsOf hrs fun x listed h => h⟩
  · obtain ⟨s, rfl : n = .text s⟩ := hn _ hx
    obtain ⟨e, rfl, hreason⟩ := unwritable_of_row hrow
    exact Or.inr ⟨_, hx, e, hf, hreason⟩

/-- Where names are texts, all cells are. -/
theorem cells_of_rows {entries : List (Name × Definition)} {rs : List Row}
    (h : Forall₂ (fun x listed => row doc r x.1 x.2 = .ok listed) entries rs)
    (hn : ∀ x ∈ entries, ∃ s, x.1 = .text s) :
    ∀ listed ∈ rs, listed.cells = listed.texts.map .text := by
  induction h with
  | nil => exact List.forall_mem_nil _
  | cons hx _ ih =>
    obtain ⟨hname, hrest⟩ := List.forall_mem_cons.1 hn
    refine List.forall_mem_cons.2 ⟨Row.cells_eq ?_, ih hrest⟩
    rwa [row_name hx]

/-! ### Printing the listing -/

theorem mute_claims (entries : List (Name × Definition)) (found : List Registry.Entry) :
    (Registry.claims found entries).Mute := by
  induction entries generalizing found with
  | nil => exact List.forall_mem_nil _
  | cons x rest ih =>
    obtain ⟨name, d⟩ := x
    rw [Registry.claims]
    split
    · exact ih found
    · split
      · exact Run.Mute.bind (by simp [Run.Mute, Run.tell, Report.output]) fun _ => ih found
      · split
        · exact List.forall_mem_nil _
        · exact ih _

theorem mute_rows (doc : Document) : (rows doc).Mute := by
  refine Run.Mute.bind ?_ fun _ => List.forall_mem_nil _
  refine (mute_claims doc.entries []).bind fun found => Run.Mute.bind ?_ fun _ => ?_
  · simp [Run.Mute, Registry.droppedNotices]
  · split <;> exact List.forall_mem_nil _

section Program

variable {σ : Type} {carry : Transport σ} {w v : World σ} {source : String} {report : Report}
  {rs : List Row} {text : String}

variable (hc : carry.Mute) (hload : Ends carry (Program.loadDocument source) w (.ok doc) v)
include hc hload

/-- A listing that comes about is all that is printed. -/
theorem printed_inspect (hrows : (rows doc).result = .ok rs)
    (htable : report.table headers (rs.map Row.cells) = (text, true)) :
    Ends carry (Program.inspect report source) w (.ok 0) v ∧
      printed carry (Program.inspect report source) w = text := by
  have hrun : Ends carry (Work.ofRun (rows doc)) v (.ok rs) v := World.ends_ofRun.2 ⟨hrows.symm, rfl⟩
  have hbefore := World.printed_of_mute hc (Program.mute_loadDocument source) w
  have hlisted := World.printed_of_mute hc (Work.mute_ofRun (mute_rows doc)) v
  constructor
  · refine World.ends_bind_ok.2 ⟨doc, v, hload, World.ends_bind_ok.2 ⟨rs, v, hrun, ?_⟩⟩
    rw [htable]
    exact World.ends_tell.2 (World.ends_pure.2 ⟨rfl, rfl⟩)
  · rw [Program.inspect, World.printed_bind hload, hbefore, World.printed_bind hrun, hlisted, htable]
    refine String.empty_append.trans (String.empty_append.trans ((World.printed_tell _ _).trans ?_))
    rw [Report.output_data]
    exact String.append_empty

theorem printed_inspect_error (report : Report) {f : Fault} (hrows : (rows doc).result = .error f) :
    Ends carry (Program.inspect report source) w (.error f) v ∧
      printed carry (Program.inspect report source) w = "" := by
  have hrun : Ends carry (Work.ofRun (rows doc)) v (.error f) v :=
    World.ends_ofRun.2 ⟨hrows.symm, rfl⟩
  constructor
  · exact World.ends_bind.2 (Or.inl ⟨doc, v, hload, World.ends_bind.2 (Or.inr ⟨f, hrun, rfl⟩)⟩)
  · rw [Program.inspect, World.printed_bind hload, World.printed_bind_error hrun,
      World.printed_of_mute hc (Program.mute_loadDocument source),
      World.printed_of_mute hc (Work.mute_ofRun (mute_rows doc))]
    rfl

end Program

/-! ### The listing read back -/

/-- Listing the definitions of a document. -/
def listing (report : Report) (source : String) : Work Int :=
  Program.work (some (.run report (.inspect source)))

/-- A listing that comes about has a row for every definition, in their order, and nothing else is
printed. In JSON it is read as it was written, and a plain one exactly if no cell of it holds a tab or a
line feed. Nothing is printed if the example of a property cannot be written. -/
theorem listing_read {σ : Type} {carry : Transport σ} (hc : carry.Mute) {w v : World σ}
    {source : String} {doc : Document}
    (hload : Ends carry (Program.loadDocument source) w (.ok doc) v) (hn : doc.Textual)
    (report : Report) :
    ∃ r, (Registry.build doc []).result = .ok r ∧
      ((∃ rs, (rows doc).result = .ok rs ∧
          Forall₂ (fun x listed => row doc r x.1 x.2 = .ok listed) doc.entries rs ∧
          (∀ listed ∈ rs, listed.cells = listed.texts.map .text) ∧
          Ends carry (listing report source) w (.ok 0) v ∧
          (report.format = .plain →
            printed carry (listing report source) w =
                Report.plainText (headers :: rs.map Row.texts) ∧
              (Report.readTable (printed carry (listing report source) w) =
                  headers :: rs.map Row.texts ↔
                ∀ listed ∈ rs, ∀ cell ∈ listed.texts, Report.Tame cell)) ∧
          (report.format = .json →
            Json.read (printed carry (listing report source) w) =
              .ok (.list (rs.map fun listed => Report.objectOf headers listed.texts)))) ∨
        (∃ x ∈ doc.entries, ∃ e, Synthesis.Reason (some x.1) x.2 (.unwritable e)) ∧
          printed carry (listing report source) w = "" ∧
          ∀ code w', Ends carry (listing report source) w (.ok code) w' → code = 1) := by
  obtain ⟨r, hr, hrows⟩ := rows_or_unwritable hn
  refine ⟨r, hr, ?_⟩
  rcases hrows with ⟨rs, hrs, hall⟩ | ⟨x, hx, e, hf, hreason⟩
  · have hcells := cells_of_rows hall hn
    have htexts : rs.map Row.cells = (rs.map Row.texts).map (List.map .text) := by
      rw [List.map_map]
      exact List.map_congr_left hcells
    have hlisting : ∀ {text}, report.table headers (rs.map Row.cells) = (text, true) →
        Ends carry (listing report source) w (.ok 0) v ∧
          printed carry (listing report source) w = text := fun htable =>
      have h := printed_inspect hc hload hrs htable
      ⟨Program.ends_concluded_code h.1, (Program.printed_concluded hc h.1).trans h.2⟩
    refine Or.inl ⟨rs, hrs, hall, hcells, ?_⟩
    cases hformat : report.format with
    | plain =>
      obtain ⟨hends, hprinted⟩ := hlisting (htexts ▸ Report.table_plain hformat headers _)
      refine ⟨hends, fun _ => ⟨hprinted, ?_⟩, nofun⟩
      rw [hprinted, Report.readTable_plainText_iff (by simp [headers, Row.texts])]
      simp [headers, Report.Tame]
    | json =>
      have hcovered : ∀ cells ∈ rs.map Row.texts, headers.length ≤ cells.length := by
        simp [headers, Row.texts]
      obtain ⟨text, htable, hread⟩ := Report.read_jsonTable (by decide) hformat hcovered
      obtain ⟨hends, hprinted⟩ := hlisting (htexts ▸ htable)
      refine ⟨hends, nofun, fun _ => ?_⟩
      rw [hprinted, hread, List.map_map]
      rfl
  · obtain ⟨hends, hprinted⟩ := printed_inspect_error hc hload report hf
    refine Or.inr ⟨⟨x, hx, e, hreason⟩, (Program.printed_concluded hc hends).trans hprinted, ?_⟩
    exact fun code w' h => Program.code_of_concluded hends (Fault.ofWriteError_ne_failure e) h

/-- A text, and lists of it. -/
def garage : World Unit :=
  Program.desk "cars.json" "\x7b\"Car\": \x7b\"type\": \"string\"\x7d, \"Cars\":
    \x7b\"type\": \"array\", \"items\": \x7b\"$ref\": \"Car\"\x7d\x7d\x7d"

theorem listing_read_garage :
    ∃ doc v, Transport.Mute Storage.offline ∧
      Ends Storage.offline (Program.loadDocument "cars.json") garage (.ok doc) v ∧ doc.Textual ∧
      Report.readTable (printed Storage.offline (listing {} "cars.json") garage) =
        [headers, ["Car", "alias", "-", "-"], ["Cars", "alias", "-", "Car"]] := by
  have hc : Transport.Mute Storage.offline := fun _ _ => rfl
  have hrows : (World.perform Storage.offline (Program.loadDocument "cars.json")
      garage).1.result.toOption.map (fun doc => (doc.entries.all fun x => x.1.identifier?.isSome,
        (rows doc).result.toOption.map (List.map Row.texts))) =
      some (true, some [["Car", "alias", "-", "-"], ["Cars", "alias", "-", "Car"]]) := by
    decide +kernel
  obtain ⟨doc, hresult, hdoc⟩ := Option.map_eq_some_iff.1 hrows
  obtain ⟨v, hload⟩ := World.exists_ends_of_toOption hresult
  obtain ⟨hnames, htable⟩ := Prod.mk.inj hdoc
  have hn : doc.Textual := by
    rintro ⟨n, d⟩ hx
    cases n with
    | text s => exact ⟨s, rfl⟩
    | other v => exact absurd (List.all_eq_true.1 hnames _ hx) (by simp [Name.identifier?])
  obtain ⟨r, -, ⟨rs, hrs, -, -, -, hplain, -⟩ | ⟨-, hnothing, -⟩⟩ := listing_read hc hload hn {}
  · rw [hrs] at htable
    have htexts : rs.map Row.texts = _ := Option.some.inj htable
    have htame : ∀ cells ∈ rs.map Row.texts, ∀ cell ∈ cells, Report.Tame cell := by
      rw [htexts]
      simp [Report.Tame]
    refine ⟨doc, v, hc, hload, hn, ?_⟩
    rw [← htexts]
    exact (hplain rfl).2.2 fun listed hlisted => htame _ (List.mem_map_of_mem hlisted)
  · exact absurd hnothing (by decide +kernel)

/-- A name with a line feed makes two lines, and neither of them is its row. -/
theorem listing_not_read :
    let w := Program.desk "d.json" "\x7b\"a\\nb\": \x7b\"type\": \"string\"\x7d\x7d"
    let text := printed Storage.offline (listing {} "d.json") w
    text = "Name\tKind\tDiscriminant\tDependencies\na\nb\talias\t-\t-\n" ∧
      Report.readTable text = [headers, ["a"], ["b", "alias", "-", "-"]] ∧
      Report.readTable text ≠ [headers, ["a\nb", "alias", "-", "-"]] := by
  decide +kernel

end Inspection

end SchemaDecl
