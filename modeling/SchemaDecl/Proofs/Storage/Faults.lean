import SchemaDecl.Proofs.Storage.Lock
import SchemaDecl.Proofs.Work

/-! With which faults storing and finding again may end. A refusal of the files is never a failure that
the user is told of. So a run that is being saved is saved or breaks off, and only what was found before
can make a failure, when nothing is written yet. -/

namespace SchemaDecl.Storage

open Work (Within within_pure within_query within_done within_fail within_ofAnswer)

/-! ### Looking -/

section Looking

variable {P : Query → Prop} {E : Fault → Prop} {p : Path}

theorem within_kind (hP : P (.kind p)) (hE : ∀ e, E (.file e)) : (kind p).Within P E :=
  (within_query hP).bind fun _ => within_ofAnswer hE

theorem within_isFile (hP : P (.kind p)) (hE : ∀ e, E (.file e)) : (isFile p).Within P E :=
  (within_kind hP hE).bind fun _ => within_pure _

theorem within_isDirectory (hP : P (.kind p)) (hE : ∀ e, E (.file e)) : (isDirectory p).Within P E :=
  (within_kind hP hE).bind fun _ => within_pure _

theorem within_readText (hP : P (.read p)) (hE : ∀ e, E (.file e)) (hU : ∀ e, E (.notUtf8 e)) :
    (readText p).Within P E := by
  refine (within_query hP).bind fun _ => (within_ofAnswer hE).bind fun _ =>
    Within.bind (within_done fun e he => ?_) fun _ => within_pure _
  obtain ⟨e', -, rfl⟩ := mapError_eq_error he
  exact hU e'

end Looking

theorem looks_isFile (p : Path) : (isFile p).Looks :=
  within_isFile trivial fun _ => trivial

theorem looks_readText (p : Path) : (readText p).Looks :=
  within_readText trivial (fun _ => trivial) fun _ => trivial

theorem looks_readJson (p : Path) (unreadable : String → Fault) : (readJson p unreadable).Looks := by
  rw [readJson_eq]
  exact ⟨trivial, fun _ => within_done fun _ _ => trivial⟩

theorem looks_loadLock (directory : Path) : (loadLock directory).Looks := by
  refine (looks_isFile _).bind fun b => ?_
  cases b with
  | false => exact within_pure _
  | true =>
    exact (looks_readJson _ _).bind fun v =>
      (within_done fun _ _ => trivial).bind fun es => within_pure _

/-! ### Writing -/

section Writing

variable {E : Fault → Prop}

theorem within_order (hE : ∀ e, E (.file e)) (a : FileAction) :
    (order a).Within (fun _ => True) E :=
  (within_query trivial).bind fun _ => within_ofAnswer hE

theorem within_settle (hE : ∀ e, E (.file e)) (p : Path) (e : FileFault) :
    (settle p e).Within (fun _ => True) E := by
  refine (within_isDirectory trivial hE).bind fun b => ?_
  cases b with
  | false => exact within_fail (hE e)
  | true => exact within_pure _

theorem within_makeDirectory (hE : ∀ e, E (.file e)) (p : Path) :
    (makeDirectory p).Within (fun _ => True) E := by
  refine (within_query trivial).bind fun r => ?_
  cases r with
  | ok => exact within_pure _
  | error e => exact within_settle hE p e

theorem within_ensureNames (hE : ∀ e, E (.file e)) (absolute : Bool) (names : List String) :
    (ensureNames absolute names).Within (fun _ => True) E := by
  induction names with
  | nil => exact within_makeDirectory hE _
  | cons name above ih =>
    rw [ensureNames]
    refine (within_query trivial).bind fun r => ?_
    rcases r with e | u
    · cases e with
      | missing => exact ih.bind fun _ => within_makeDirectory hE _
      | _ => exact within_settle hE _ _
    · exact within_pure _

theorem within_ensureDirectory (hE : ∀ e, E (.file e)) (p : Path) :
    (ensureDirectory p).Within (fun _ => True) E :=
  within_ensureNames hE _ _

theorem within_discard (hE : ∀ e, E (.file e)) (p : Path) :
    (discard p).Within (fun _ => True) E := by
  refine (within_kind trivial hE).bind fun k => ?_
  cases k with
  | none => exact within_pure _
  | some k => exact within_order hE _

theorem within_fill (hE : ∀ e, E (.file e)) (p : Path) (text : String) :
    (fill p text).Within (fun _ => True) E :=
  (within_order hE _).bind fun _ => (within_order hE _).bind fun _ => within_order hE _

/-- A file that cannot be replaced is one that the files refuse. -/
theorem within_replaceText (hE : ∀ e, E (.file e)) (p : Path) (text : String) :
    (replaceText p text).Within (fun _ => True) E := by
  refine (within_ensureDirectory hE _).bind fun _ => (within_query trivial).bind fun r =>
    (within_ofAnswer hE).bind fun temporary =>
      (within_fill hE temporary text).bind_attempt fun filled hfilled => ?_
  cases filled with
  | error e =>
    exact (within_order hE _).bind fun _ =>
      (within_discard hE temporary).bind fun _ => within_fail (hfilled e rfl)
  | ok =>
    refine ((within_order hE _).bind fun _ => within_order hE _).bind_attempt fun placed hplaced => ?_
    cases placed with
    | error e => exact (within_discard hE temporary).bind fun _ => within_fail (hplaced e rfl)
    | ok => exact within_pure _

end Writing

section Refusals

variable {σ : Type} {carry : Transport σ} {w w' : World σ} {e : Fault}

theorem refused_of_ensureDirectory {p : Path}
    (h : World.Ends carry (ensureDirectory p) w (.error e) w') : ∃ f, e = .file f :=
  World.fault_of_within (E := fun e => ∃ f, e = .file f) (within_ensureDirectory (fun f => ⟨f, rfl⟩) p) h

theorem refused_of_replaceText {p : Path} {text : String}
    (h : World.Ends carry (replaceText p text) w (.error e) w') : ∃ f, e = .file f :=
  World.fault_of_within (E := fun e => ∃ f, e = .file f) (within_replaceText (fun f => ⟨f, rfl⟩) p text) h

end Refusals

theorem firm_isFile (p : Path) : (isFile p).Firm :=
  within_isFile trivial Fault.file_ne_failure

theorem firm_readText (p : Path) : (readText p).Firm :=
  within_readText trivial Fault.file_ne_failure Fault.notUtf8_ne_failure

theorem firm_replaceText (p : Path) (text : String) : (replaceText p text).Firm :=
  within_replaceText Fault.file_ne_failure p text

theorem firm_holds (p : Path) (text : String) : (holds p text).Firm := by
  refine (firm_isFile p).bind fun b => ?_
  cases b with
  | false => exact within_pure _
  | true => exact (firm_readText p).bind fun _ => within_pure _

theorem firm_saveModules (directory : Path) (ms : List Module) : (saveModules directory ms).Firm := by
  induction ms with
  | nil => exact within_pure _
  | cons m ms ih =>
    refine (firm_holds _ _).bind fun held => ?_
    cases held with
    | true => exact ih
    | false => exact (firm_replaceText _ _).bind fun _ => ih.bind fun _ => within_pure _

theorem firm_saveLock (directory : Path) (r : Registry) : (saveLock directory r).Firm := by
  refine Within.bind (within_done fun e he => ?_) fun _ => firm_replaceText _ _
  obtain ⟨e', -, rfl⟩ := mapError_eq_error he
  exact Fault.ofWriteError_ne_failure e'

/-- A run that is being saved does not end in a failure. -/
theorem firm_save (directory : Path) (g : Generation) : (save directory g).Firm :=
  (within_ensureDirectory Fault.file_ne_failure directory).bind fun _ =>
    (firm_saveModules directory g.modules).bind fun _ =>
    (firm_saveLock directory g.registry).bind fun _ => within_pure _

end SchemaDecl.Storage
