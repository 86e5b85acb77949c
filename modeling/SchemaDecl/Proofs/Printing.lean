import SchemaDecl.Program
import SchemaDecl.Proofs.Http.Exchange
import SchemaDecl.Proofs.Work

/-! What work prints on standard output. Only data is printed there; work that tells no data leaves it
alone, if the transport does, whatever the answers are and however the work ends. So what a program prints
is what its command prints: documents are read, logs are left and remarks are made without a word. -/

namespace SchemaDecl

open Report (output)

/-! ### Work without data -/

theorem Report.output_append (ns ms : List Notice) : output (ns ++ ms) = output ns ++ output ms := by
  rw [output, List.map_append, String.join_append]
  rfl

theorem Report.output_data (text : String) : output [.data text] = text := by
  simp [output]

/-- A run that tells no data. -/
def Run.Mute {α : Type} (x : Run α) : Prop :=
  ∀ n ∈ x.notices, output [n] = ""

/-- Work on a state that prints nothing. -/
def Act.Mute {σ α : Type} (a : Act σ α) : Prop :=
  ∀ s, output (a s).1.notices = ""

/-- A transport that prints nothing. -/
def Transport.Mute {σ : Type} (carry : Transport σ) : Prop :=
  ∀ request, Act.Mute (carry request)

/-- Work that tells no data, whatever the answers are. -/
def Work.Mute {α : Type} : Work α → Prop
  | .done _ => True
  | .tell n next => output [n] = "" ∧ next.Mute
  | .ask _ next => ∀ a, (next a).Mute

theorem Run.Mute.bind {α β : Type} {x : Run α} {f : α → Run β} (hx : x.Mute) (hf : ∀ a, (f a).Mute) :
    (x >>= f).Mute := by
  intro n hn
  change n ∈ (Run.andThen x f).notices at hn
  unfold Run.andThen at hn
  split at hn
  · rcases List.mem_append.1 hn with hn | hn
    · exact hx n hn
    · exact hf _ n hn
  · exact hx n hn

namespace Act

variable {σ α β : Type}

theorem mute_ofExcept (r : Except Fault α) : (ofExcept r : Act σ α).Mute :=
  fun _ => rfl

theorem Mute.bind {a : Act σ α} {f : α → Act σ β} (ha : a.Mute) (hf : ∀ x, (f x).Mute) :
    (a >>= f).Mute := by
  intro s
  have hs := ha s
  rcases h : a s with ⟨⟨ns, e | x⟩, t⟩
  · rw [bind_of_error h]
    rwa [h] at hs
  · rw [bind_of_ok h, Report.output_append, hf x t]
    rw [h] at hs
    rw [hs]
    rfl

end Act

namespace Work

variable {α β : Type}

theorem mute_done (r : Except Fault α) : (Work.done r).Mute :=
  trivial

theorem mute_query (q : Query) : (query q).Mute :=
  fun _ => trivial

theorem mute_ofRun {x : Run α} (h : x.Mute) : (ofRun x).Mute := by
  obtain ⟨notices, r⟩ := x
  rw [ofRun]
  induction notices with
  | nil => trivial
  | cons n notices ih =>
    obtain ⟨hn, hrest⟩ := List.forall_mem_cons.1 h
    exact ⟨hn, ih hrest⟩

theorem Mute.bind {x : Work α} {f : α → Work β} (hx : x.Mute) (hf : ∀ a, (f a).Mute) :
    (x >>= f).Mute := by
  induction x with
  | done r =>
    cases r with
    | ok a => exact hf a
    | error e => trivial
  | tell n next ih => exact ⟨hx.1, ih hx.2⟩
  | ask q next ih => exact fun a => ih a (hx a)

theorem Mute.bind_attempt {x : Work α} {f : Except Fault α → Work β} (hx : x.Mute)
    (hf : ∀ r, (f r).Mute) : (x.attempt >>= f).Mute := by
  induction x with
  | done r => exact hf r
  | tell n next ih => exact ⟨hx.1, ih hx.2⟩
  | ask q next ih => exact fun a => ih a (hx a)

end Work

/-! ### Answers -/

namespace Transport

variable {σ : Type} {carry : Transport σ}

theorem Mute.exchange (hc : carry.Mute) (left : Nat) (q : Request) : (carry.exchange left q).Mute := by
  -- how often the client may be sent on decides only whether there is another request
  induction left generalizing q with
  | zero =>
    rw [exchange_eq]
    refine (hc q).bind fun r => (Act.mute_ofExcept _).bind fun _ => ?_
    rw [after]
    split
    · exact Act.mute_ofExcept _
    · exact (Act.mute_ofExcept _).bind fun _ => Act.mute_ofExcept _
  | succ left ih =>
    rw [exchange_eq]
    refine (hc q).bind fun r => (Act.mute_ofExcept _).bind fun _ => ?_
    rw [after]
    split
    · exact Act.mute_ofExcept _
    · exact (Act.mute_ofExcept _).bind fun next => ih next

theorem Mute.send (hc : carry.Mute) (q : Request) : (carry.send q).Mute :=
  hc.exchange _ _

end Transport

namespace World

variable {σ α β : Type} {carry : Transport σ} {w v : World σ}

theorem mute_fetch (hc : carry.Mute) (url : String) : (fetch carry url).Mute := by
  unfold fetch
  split
  · exact fun _ => rfl
  · exact fun w => hc.send _ w.net

theorem mute_change (f : World σ → Except FileFault (α × Files)) : (change f).Mute := by
  refine Act.Mute.bind (fun _ => rfl) fun w => ?_
  split <;> exact fun _ => rfl

/-- Answers are given without a word. -/
theorem mute_answer (hc : carry.Mute) (q : Query) : (answer carry q).Mute := by
  cases q with
  | fetch url => exact mute_fetch hc url
  | createTemporary d name => exact mute_change _
  | act a => exact mute_change _
  | _ => exact fun _ => rfl

/-! ### What is printed -/

/-- What work prints. -/
def printed (carry : Transport σ) (x : Work α) (w : World σ) : String :=
  output (perform carry x w).1.notices

theorem printed_tell (n : Notice) (x : Work α) :
    printed carry (.tell n x) w = output [n] ++ printed carry x w := by
  have htell : Act.tell n w = (⟨[n], .ok ()⟩, w) := rfl
  rw [printed, perform, Work.carryOut, Act.bind_of_ok htell]
  exact Report.output_append _ _

theorem printed_ask {q : Query} {next : q.Answer → Work α} {ns : List Notice} {a : q.Answer}
    (h : answer carry q w = (⟨ns, .ok a⟩, v)) :
    printed carry (.ask q next) w = output ns ++ printed carry (next a) v := by
  rw [printed, perform, Work.carryOut, Act.bind_of_ok h]
  exact Report.output_append _ _

/-- Work that tells no data prints nothing. -/
theorem printed_of_mute (hc : carry.Mute) {x : Work α} (hx : x.Mute) (w : World σ) :
    printed carry x w = "" := by
  induction x generalizing w with
  | done r => rfl
  | tell n next ih =>
    rw [printed_tell, hx.1, ih hx.2]
    rfl
  | ask q next ih => exact (mute_answer hc q).bind (fun a w => ih a (hx a) w) w

/-- What comes after work prints behind it, if anything comes. -/
theorem printed_bind_of_ends {x : Work α} {f : α → Work β} {r : Except Fault α}
    (h : Ends carry x w r v) : printed carry (x >>= f) w =
      printed carry x w ++ r.toOption.elim "" fun a => printed carry (f a) v := by
  induction x generalizing w with
  | done result =>
    obtain ⟨rfl, rfl⟩ := ends_done.1 h
    cases r with
    | ok a => exact String.empty_append.symm
    | error e => rfl
  | tell n next ih =>
    have hbind : (Work.tell n next >>= f) = .tell n (next >>= f) := rfl
    rw [hbind, printed_tell, printed_tell, ih (ends_tell.1 h), String.append_assoc]
  | ask q next ih =>
    obtain ⟨b, u, ⟨ns, hb⟩, h⟩ := ends_ask_iff.1 h
    have hbind : (Work.ask q next >>= f) = .ask q fun b => next b >>= f := rfl
    rw [hbind, printed_ask hb, printed_ask hb, ih b h, String.append_assoc]

/-- Parts print one after another. -/
theorem printed_bind {x : Work α} {f : α → Work β} {a : α} (h : Ends carry x w (.ok a) v) :
    printed carry (x >>= f) w = printed carry x w ++ printed carry (f a) v :=
  printed_bind_of_ends h

theorem printed_bind_error {x : Work α} {f : α → Work β} {e : Fault}
    (h : Ends carry x w (.error e) v) : printed carry (x >>= f) w = printed carry x w :=
  (printed_bind_of_ends h).trans String.append_empty

theorem printed_attempt {x : Work α} {r : Except Fault α} (h : Ends carry x w r v) :
    printed carry x.attempt w = printed carry x w := by
  induction x generalizing w with
  | done r => rfl
  | tell n next ih => rw [Work.attempt, printed_tell, printed_tell, ih (ends_tell.1 h)]
  | ask q next ih =>
    obtain ⟨b, u, ⟨ns, hb⟩, h⟩ := ends_ask_iff.1 h
    rw [Work.attempt, printed_ask hb, printed_ask hb, ih b h]

end World

/-! ### Files -/

namespace Storage

open Work (mute_done mute_query)

theorem mute_kind (p : Path) : (kind p).Mute :=
  (mute_query _).bind fun _ => mute_done _

theorem mute_isFile (p : Path) : (isFile p).Mute :=
  (mute_kind p).bind fun _ => mute_done _

theorem mute_isDirectory (p : Path) : (isDirectory p).Mute :=
  (mute_kind p).bind fun _ => mute_done _

theorem mute_readText (p : Path) : (readText p).Mute :=
  (mute_query _).bind fun _ => (mute_done _).bind fun _ => (mute_done _).bind fun _ => mute_done _

theorem mute_order (a : FileAction) : (order a).Mute :=
  (mute_query _).bind fun _ => mute_done _

theorem mute_settle (p : Path) (e : FileFault) : (settle p e).Mute := by
  refine (mute_isDirectory p).bind fun b => ?_
  cases b <;> exact mute_done _

theorem mute_makeDirectory (p : Path) : (makeDirectory p).Mute := by
  refine (mute_query _).bind fun r => ?_
  cases r with
  | ok => exact mute_done _
  | error e => exact mute_settle p e

theorem mute_ensureNames (absolute : Bool) (names : List String) : (ensureNames absolute names).Mute := by
  induction names with
  | nil => exact mute_makeDirectory _
  | cons name above ih =>
    rw [ensureNames]
    refine (mute_query _).bind fun r => ?_
    rcases r with e | u
    · cases e with
      | missing => exact ih.bind fun _ => mute_makeDirectory _
      | _ => exact mute_settle _ _
    · exact mute_done _

theorem mute_ensureDirectory (p : Path) : (ensureDirectory p).Mute :=
  mute_ensureNames _ _

end Storage

/-! ### Programs -/

namespace Program

open Work (mute_done mute_query)
open World (Ends printed)

theorem mute_load (s : Source) : s.load.Mute := by
  cases s with
  | input =>
    refine (mute_query _).bind fun text => ?_
    split <;> exact mute_done _
  | web url =>
    refine (mute_query _).bind fun r => ?_
    rcases r with e | r
    · cases e <;> exact mute_done _
    · exact mute_done _
  | file path =>
    refine (Storage.mute_isFile _).bind fun b => ?_
    cases b with
    | false => exact mute_done _
    | true =>
      refine (Storage.mute_readText _).bind_attempt fun r => ?_
      rcases r with f | text
      · exact mute_done _
      · dsimp only
        split <;> exact mute_done _

theorem mute_loadDocument (source : String) : (loadDocument source).Mute :=
  (mute_load _).bind fun _ => mute_done _

theorem mute_homeDirectory : homeDirectory.Mute := by
  refine (mute_query _).bind fun home => ?_
  split
  · split <;> exact mute_done _
  · exact mute_done _

theorem mute_dataDirectory : dataDirectory.Mute := by
  have hmake : ∀ base : Path, (do
      let p := base.entry "schemagen"
      Storage.ensureDirectory p
      return p : Work Path).Mute := fun base =>
    (Storage.mute_ensureDirectory _).bind fun _ => mute_done _
  refine (mute_query _).bind fun chosen => ?_
  dsimp only
  split
  · exact hmake _
  · exact mute_homeDirectory.bind fun _ => (mute_done _).bind hmake

theorem mute_leaveLog (fault : Fault) : (leaveLog fault).Mute := by
  refine mute_dataDirectory.bind fun _ => (Storage.mute_ensureDirectory _).bind fun _ =>
    (mute_query _).bind fun _ => (Storage.mute_order _).bind fun _ => mute_done _

/-- To tell what work failed of prints nothing. -/
theorem printed_concluded {σ : Type} {carry : Transport σ} (hc : carry.Mute) {w v : World σ} {x : Work Int}
    {r : Except Fault Int} (h : Ends carry x w r v) :
    printed carry (concluded x) w = printed carry x w := by
  rw [concluded, World.printed_bind (World.ends_attempt h), World.printed_attempt h]
  refine (congrArg (_ ++ ·) (World.printed_of_mute hc ?_ v)).trans String.append_empty
  rcases r with fault | code
  · cases fault with
    | failure f => exact ⟨rfl, trivial⟩
    | _ => exact (mute_leaveLog _).bind fun _ => ⟨rfl, trivial⟩
  · trivial

end Program

end SchemaDecl
