import SchemaDecl.Proofs.Json.Numerals
import SchemaDecl.Proofs.Program
import SchemaDecl.Proofs.Yaml.Composing
import SchemaDecl.Proofs.Yaml.Constructing

/-! What comes of a document, whatever it holds. Reading ends with an object or with an error that tells what
is wrong with the document, and the program then ends with the exit code for such errors; what ends otherwise
holds bytes that are no text, a numeral that is too long, an escape for a character that there is not, or a
scalar that its tag has no value for. -/

namespace SchemaDecl

/-! ### Texts -/

/-- Whether reading ended with an object or with an error that tells what is wrong with the document. -/
def isForeseen : Except Fault Value → Bool
  | .ok (.map _) => true
  | .error (.failure (.document _)) => true
  | _ => false

theorem exists_document {r : Except Fault Value} (h : isForeseen r) (herror : r.isOk = false) :
    ∃ e, r = .error (.failure (.document e)) := by
  cases r with
  | ok v => cases herror
  | error f =>
    unfold isForeseen at h
    split at h
    next heq => cases heq
    next e heq => exact ⟨e, heq⟩
    next => cases h

/-- Why reading a text ends with a fault that tells nothing of the document. -/
inductive Format.Escapes (format : Format) (text : String) : Fault → Prop
  /-- An integer with too many digits where JSON is read. -/
  | numeral {n : Nat} (hformat : format ≠ .yaml) (hlong : Json.LongNumeral text.toList n) :
    Escapes format text (.badValue (Numeral.tooManyDigitsToRead n))
  /-- Tokens of YAML that break off for something else than the grammar. -/
  | tokens {f : Yaml.Flaw} (hformat : format ≠ .json) (hbreak : Yaml.BreakOff text.toList f)
    (hf : f ≠ .malformed) : Escapes format text (Fault.ofFlaw f)
  /-- A document of YAML with a scalar that its tag has no value for. -/
  | scalar {g : Yaml.Graph} {f : Yaml.Flaw} (hformat : format ≠ .json)
    (hdocument : Yaml.document? text.toList = .ok (some g)) (hmade : Yaml.Unmade g f)
    (hf : f ≠ .malformed) : Escapes format text (Fault.ofFlaw f)

theorem Fault.ofFlaw_ne_failure {f : Yaml.Flaw} (h : f ≠ .malformed) (e : Failure) :
    Fault.ofFlaw f ≠ .failure e := by
  cases f with
  | malformed => exact absurd rfl h
  | _ => exact Fault.noConfusion

theorem Format.Escapes.ne_failure {format : Format} {text : String} {f : Fault} (h : Escapes format text f)
    (e : Failure) : f ≠ .failure e := by
  cases h with
  | numeral => exact Fault.noConfusion
  | tokens _ _ hf => exact Fault.ofFlaw_ne_failure hf e
  | scalar _ _ _ hf => exact Fault.ofFlaw_ne_failure hf e

namespace Format

theorem isForeseen_requireObject (v : Value) : isForeseen (requireObject v) := by
  cases v <;> rfl

theorem isForeseen_readYaml {format : Format} (hformat : format ≠ .json) (text : String)
    (json : Option Json.Error) :
    isForeseen (readYaml text json) ∨ ∃ f, readYaml text json = .error f ∧ Escapes format text f := by
  unfold readYaml
  split
  next v _ => exact .inl (isForeseen_requireObject v)
  next => exact .inl rfl
  next f hf hread =>
    refine .inr ⟨_, rfl, ?_⟩
    rcases Yaml.of_read_eq_error hread with hdocument | ⟨g, hdocument, hvalue⟩
    · exact .tokens hformat (Yaml.breakOff_of_document? hdocument) hf
    · exact .scalar hformat hdocument (Yaml.unmade_of_value hvalue) hf

theorem isForeseen_read (format : Format) (text : String) :
    isForeseen (format.read text) ∨ ∃ f, format.read text = .error f ∧ Escapes format text f := by
  unfold read
  split
  next hyaml =>
    have hformat : format ≠ .json := by
      rw [eq_of_beq hyaml]
      exact Format.noConfusion
    exact isForeseen_readYaml hformat text none
  next hyaml =>
    split
    next v _ => exact .inl (isForeseen_requireObject v)
    next n hread =>
      exact .inr ⟨_, rfl, .numeral (fun h => hyaml (beq_iff_eq.2 h)) (Json.longNumeral_of_read hread)⟩
    next e _ _ =>
      split
      next => exact .inl rfl
      next hjson => exact isForeseen_readYaml (fun h => hjson (beq_iff_eq.2 h)) text (some e)

end Format

/-! ### Files -/

namespace Source

/-- What comes of a file with these bytes. -/
def outcome (path : String) (bytes : List UInt8) : Except Fault Value :=
  match Text.decode bytes with
  | .error e => .error (.notUtf8 e)
  | .ok text =>
    let text := Text.unifyNewlines text
    if Text.isAllBlank text then .error (.failure (.document (.empty path)))
    else (formatOfSuffix (Path.ofText path).suffix).read text

/-- Why loading a file ends with a fault that tells nothing of the document. -/
inductive Escapes (path : String) (bytes : List UInt8) : Fault → Prop
  | encoding {e : Text.Utf8Error} (h : Text.decode bytes = .error e) : Escapes path bytes (.notUtf8 e)
  | text {text : String} {f : Fault} (h : Text.decode bytes = .ok text)
    (hf : (formatOfSuffix (Path.ofText path).suffix).Escapes (Text.unifyNewlines text) f) :
    Escapes path bytes f

theorem Escapes.ne_failure {path : String} {bytes : List UInt8} {f : Fault} (h : Escapes path bytes f)
    (e : Failure) : f ≠ .failure e := by
  cases h with
  | encoding => exact Fault.noConfusion
  | text _ hf => exact hf.ne_failure e

theorem isForeseen_outcome (path : String) (bytes : List UInt8) :
    isForeseen (outcome path bytes) ∨ ∃ f, outcome path bytes = .error f ∧ Escapes path bytes f := by
  unfold outcome
  split
  next e h => exact .inr ⟨_, rfl, .encoding h⟩
  next text h =>
    dsimp only
    split
    next => exact .inl rfl
    next =>
      refine (Format.isForeseen_read _ _).imp_right ?_
      rintro ⟨f, hread, hf⟩
      exact ⟨f, hread, .text h hf⟩

end Source

/-! ### Commands -/

namespace Program

open World (Ends ends_done ends_ask_kind ends_ask_read ends_ask ends_bind ends_bind_ok ends_pure)

variable {σ : Type} {carry : Transport σ} {w v w' : World σ} {source path : String} {bytes : List UInt8}

/-- What loading does with the text of a file, or with the fault in its place. -/
def parse (path : String) (text : Except Fault String) : Work Value :=
  match text with
  | .error f => Work.fail (Source.unread path f)
  | .ok text =>
    if Text.isAllBlank text then Source.refuse (.empty path)
    else Work.ofExcept ((Source.formatOfSuffix (Path.ofText path).suffix).read text)

theorem ends_load_file {r : Except Fault Value}
    (hread : w.files.read (w.place (Path.ofText path)) = .ok bytes) :
    Ends carry (Source.file path).load w r w' ↔ r = Source.outcome path bytes ∧ w' = w := by
  rw [Source.load, Storage.readText_eq]
  refine ends_ask_kind.trans ?_
  rw [Storage.kind_of_read hread]
  refine ends_ask_read.trans ?_
  rw [hread]
  change Ends carry (parse path (Storage.textOf (.ok bytes))) w r w' ↔ _
  unfold Source.outcome
  cases hdecode : Text.decode bytes with
  | error e =>
    have htext : Storage.textOf (.ok bytes) = .error (.notUtf8 e) := by
      simp [Storage.textOf, hdecode, Except.mapError, bind, Except.bind]
    rw [htext]
    exact ends_done
  | ok text =>
    have htext : Storage.textOf (.ok bytes) = .ok (Text.unifyNewlines text) := by
      simp [Storage.textOf, hdecode, Except.mapError, bind, Except.bind, pure, Except.pure]
    rw [htext, parse]
    dsimp only
    split
    · exact ends_done
    · exact ends_done

/-- A source is a file with these bytes. -/
structure Holds (w : World σ) (source path : String) (bytes : List UInt8) : Prop where
  source : Source.ofText source = .file path
  read : w.files.read (w.place (Path.ofText path)) = .ok bytes

theorem Holds.loadDocument {f : Fault} (h : Holds w source path bytes)
    (hf : Source.outcome path bytes = .error f) :
    Ends carry (Program.loadDocument source) w (.error f) w := by
  refine ends_bind.2 (.inr ⟨f, ?_, rfl⟩)
  rw [h.source]
  exact (ends_load_file h.read).2 ⟨hf.symm, rfl⟩

/-- A command comes to read the source. The one to generate modules does so once its settings are known. -/
inductive Opens (carry : Transport σ) (w : World σ) (source : String) : Arguments.Command → World σ → Prop
  | inspect : Opens carry w source (.inspect source) w
  | generate {o : Settings.Overrides} {settings : Settings} {v : World σ}
    (h : Ends carry (Settings.resolve w.directory o) w (.ok settings) v) :
    Opens carry w source (.generate source o) v

theorem Opens.files_eq {c : Arguments.Command} (h : Opens carry w source c v) : v.files = w.files := by
  cases h with
  | inspect => rfl
  | generate h => exact World.files_of_looks (looks_resolve _ _) h

theorem Holds.command {f : Fault} {c : Arguments.Command} (h : Holds w source path bytes)
    (hf : Source.outcome path bytes = .error f) (hc : Opens carry w source c v) (report : Report) :
    Ends carry (Program.command report c) w (.error f) v := by
  have hfiles := hc.files_eq
  cases hc with
  | inspect => exact ends_bind.2 (.inr ⟨f, h.loadDocument hf, rfl⟩)
  | generate hsettings =>
    have hv : Holds v source path bytes :=
      ⟨h.source, by rw [World.place, World.directory_of_ends hsettings, hfiles]; exact h.read⟩
    have hhere : Ends carry (Work.query .workingDirectory) w (.ok w.directory) w :=
      ends_ask.2 (.inl ⟨w.directory, w, ⟨[], rfl⟩, ends_pure.2 ⟨rfl, rfl⟩⟩)
    refine ends_bind.2 (.inl ⟨w.directory, w, hhere, ?_⟩)
    refine ends_bind.2 (.inl ⟨_, v, hsettings, ?_⟩)
    exact ends_bind.2 (.inr ⟨f, hv.loadDocument hf, rfl⟩)

/-- After a fault that nobody foresaw no other code is returned than that for faults in general. -/
theorem code_of_concluded {x : Work Int} {f : Fault} {code : Int} (h : Ends carry x w (.error f) v)
    (hf : ∀ e, f ≠ .failure e) (hcode : Ends carry (concluded x) w (.ok code) w') : code = 1 := by
  obtain ⟨r, u, hr, hrest⟩ := ends_bind_ok.1 hcode
  obtain ⟨ns, hx⟩ := World.ends_attempt h
  obtain ⟨ns', hx'⟩ := hr
  rw [hx] at hx'
  cases hx'
  -- all other faults lead to the branch that leaves a log
  cases f with
  | failure e => exact absurd rfl (hf e)
  | _ =>
    obtain ⟨p, t, -, hrest⟩ := ends_bind_ok.1 hrest
    exact (ends_pure.1 (World.ends_tell.1 hrest)).1

/-- Reading a text, or loading a file, ends with an object or with an error that tells what is wrong with
the document, unless the text or the bytes hold a reason to end otherwise. Such an error makes a command
that came to read the document end with the exit code for it and leaves the files alone; with any other
fault no code is returned but that for faults in general. -/
theorem load_foreseen (carry : Transport σ) :
    (∀ (format : Format) (text : String), isForeseen (format.read text) ∨
      ∃ f, format.read text = .error f ∧ format.Escapes text f) ∧
    ∀ (w : World σ) (source path : String) (bytes : List UInt8), Holds w source path bytes →
      (∀ r w', Ends carry (Source.ofText source).load w r w' ↔ r = Source.outcome path bytes ∧ w' = w) ∧
      (isForeseen (Source.outcome path bytes) ∨
        ∃ f, Source.outcome path bytes = .error f ∧ Source.Escapes path bytes f) ∧
      ∀ report c v, Opens carry w source c v → v.files = w.files ∧
        (∀ e, Source.outcome path bytes = .error (.failure (.document e)) →
          Ends carry (work (some (.run report c))) w (.ok 7) v) ∧
        ∀ f code w', Source.outcome path bytes = .error f → Source.Escapes path bytes f →
          Ends carry (work (some (.run report c))) w (.ok code) w' → code = 1 := by
  refine ⟨Format.isForeseen_read, fun w source path bytes h => ⟨fun r w' => ?_,
    Source.isForeseen_outcome path bytes, fun report c v hc => ⟨hc.files_eq, fun e he => ?_,
    fun f code w' hf hescapes hcode => ?_⟩⟩⟩
  · rw [h.source]
    exact ends_load_file h.read
  · exact ends_concluded_failure (h.command he hc report)
  · exact code_of_concluded (h.command hf hc report) hescapes.ne_failure hcode

/-- A world with a file in the working directory. -/
def desk (name text : String) : World Unit :=
  { files := ⟨[([name], .file (Text.encode text))]⟩
    net := () }

theorem load_foreseen_list :
    let w := desk "list.yaml" "- 1"
    let bytes := Text.encode "- 1"
    Holds w "list.yaml" "list.yaml" bytes ∧ Opens Storage.offline w "list.yaml" (.inspect "list.yaml") w ∧
      (∃ e, Source.outcome "list.yaml" bytes = .error (.failure (.document e))) ∧
      Ends Storage.offline (work (some (.run {} (.inspect "list.yaml")))) w (.ok 7) w := by
  have hw : Holds (desk "list.yaml" "- 1") "list.yaml" "list.yaml" (Text.encode "- 1") :=
    ⟨by decide +kernel, by decide +kernel⟩
  have hc : Opens Storage.offline (desk "list.yaml" "- 1") "list.yaml" (.inspect "list.yaml") _ := .inspect
  obtain ⟨-, -, hcommand⟩ := (load_foreseen Storage.offline).2 _ _ _ _ hw
  obtain ⟨e, he⟩ := exists_document (r := Source.outcome "list.yaml" (Text.encode "- 1"))
    (by decide +kernel) (by decide +kernel)
  exact ⟨hw, hc, ⟨e, he⟩, (hcommand {} _ _ hc).2.1 e he⟩

/-- A date in a month that there is not is told as an unexpected error. -/
theorem not_isForeseen_month :
    isForeseen (Format.yaml.read "a: 2020-13-01") = false ∧
      ∃ w', Ends Storage.offline (work (some (.run {} (.inspect "a.yaml")))) (desk "a.yaml" "a: 2020-13-01")
        (.ok 1) w' :=
  ⟨by decide +kernel, World.exists_ends_of_toOption (by decide +kernel)⟩

end Program

end SchemaDecl
