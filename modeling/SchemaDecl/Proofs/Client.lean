import Mathlib
import SchemaDecl.Client
import SchemaDecl.Proofs.Http.Exchange
import SchemaDecl.Proofs.Paging.Envelope

/-! What comes of asking a service for data. A response gives the data that it spells, or a failure whose
family is told by the status: whatever the body holds, it decides on the words alone. If there is no response,
trouble with the connection is a failure as well; all other trouble on the way comes through as it is, also
to those who follow links. -/

namespace SchemaDecl

variable {σ : Type}

open Fault (OfAddress Astray)

/-! ### What a response says about an error -/

namespace Response

/-- The error that a body tells, or what this tells in its turn. -/
def errorOf (body : Value) : Value :=
  match body.fieldOrNull "error" with
  | .map inner => (Value.map inner).fieldOrNull "message"
  | v => v

/-- Where bodies say what is wrong. -/
def usualPlaces (body : Value) : List Value :=
  [body.fieldOrNull "message", errorOf body, body.fieldOrNull "detail"]

/-- What a response says about an error. -/
inductive Tells (r : Response) : String → Prop
  /-- A body that is not JSON says its first characters. -/
  | text {reason text : String} (hj : r.json = .error reason) (ht : r.text = .ok text) :
    Tells r (String.ofList (text.toList.take 200))
  | value {v : Value} (hj : r.json = .ok v) (hv : ∀ entries, v ≠ .map entries) : Tells r v.display
  /-- Of an object the first place counts that says something. -/
  | place {entries : List (Value × Value)} {before after : List Value} {v : Value}
    (hj : r.json = .ok (.map entries)) (hplaces : usualPlaces (.map entries) = before ++ v :: after)
    (hbefore : ∀ w ∈ before, w.isTruthy = false) (hv : v.isTruthy = true) : Tells r v.display
  | nothing {entries : List (Value × Value)} (hj : r.json = .ok (.map entries))
    (hplaces : ∀ w ∈ usualPlaces (.map entries), w.isTruthy = false) : Tells r ""

end Response

namespace Client

theorem firstTruthy_cases (vs : List Value) :
    (∃ before v after, vs = before ++ v :: after ∧ (∀ w ∈ before, w.isTruthy = false) ∧
      v.isTruthy = true ∧ firstTruthy vs = v) ∨
    (∀ w ∈ vs, w.isTruthy = false) ∧ firstTruthy vs = .text "" := by
  induction vs with
  | nil => exact Or.inr ⟨List.forall_mem_nil _, rfl⟩
  | cons v vs ih =>
    rw [firstTruthy]
    cases hv : v.isTruthy with
    | true => exact Or.inl ⟨[], v, vs, rfl, List.forall_mem_nil _, hv, rfl⟩
    | false =>
      rcases ih with ⟨before, w, after, rfl, hbefore, hw, hfirst⟩ | ⟨hall, hfirst⟩
      · exact Or.inl ⟨v :: before, w, after, rfl, List.forall_mem_cons.2 ⟨hv, hbefore⟩, hw, hfirst⟩
      · exact Or.inr ⟨List.forall_mem_cons.2 ⟨hv, hall⟩, hfirst⟩

theorem detailOf_map (entries : List (Value × Value)) :
    detailOf (.map entries) = (firstTruthy (Response.usualPlaces (.map entries))).display := rfl

theorem detailOf_of_ne_map {v : Value} (h : ∀ entries, v ≠ .map entries) : detailOf v = v.display := by
  cases v with
  | map entries => exact absurd rfl (h entries)
  | _ => rfl

/-- Looking into a body finds what the response says, unless its characters cannot be read. -/
theorem tells_of_explanation {r : Response} {detail : String} (h : explanation r = .ok detail) :
    r.Tells detail := by
  unfold explanation at h
  split at h
  next v hj =>
    cases h
    by_cases hv : ∃ entries, v = .map entries
    · obtain ⟨entries, rfl⟩ := hv
      rw [detailOf_map]
      rcases firstTruthy_cases (Response.usualPlaces (.map entries)) with
        ⟨before, v, after, hplaces, hbefore, hv, hfirst⟩ | ⟨hall, hfirst⟩
      · rw [hfirst]
        exact .place hj hplaces hbefore hv
      · rw [hfirst]
        exact .nothing hj hall
    · rw [detailOf_of_ne_map (not_exists.1 hv)]
      exact .value hj (not_exists.1 hv)
  next reason hj =>
    obtain ⟨text, ht, rfl⟩ := map_eq_ok h
    exact .text hj ht

/-! ### From an address to a response -/

/-- How the exchange for an address ends in an open client. -/
inductive Sent (carry : Transport σ) (c : Client) (directory : Url) (url : String) (s : σ) :
    Except Fault Response → σ → Prop
  /-- There is no request for such an address. -/
  | unmade {f : Fault} (hq : c.requestFor directory "GET" url none none = .error f) :
    Sent carry c directory url s (.error f) s
  | exchanged {q : Request} {x : Except Fault Response} {s' : σ}
    (hq : c.requestFor directory "GET" url none none = .ok q)
    (he : Exchanged carry redirectLimit q.signed s x s') : Sent carry c directory url s x s'

section Sending

variable {carry : Transport σ} {c : Client} {directory : Url} {url : String} {s s' : σ}
  {x : Except Fault Response}

theorem settles_requestFor (c : Client) (directory : Url) (method url : String) :
    Settles OfAddress (fun _ => True) (c.requestFor directory method url none none) := by
  unfold requestFor
  refine (settles_mapError .url _).bind fun u _ => ?_
  refine (settles_pure u).bind fun u _ => ?_
  extract_lets request
  exact (settles_pure none).bind fun body _ => Request.settles_checked _

theorem sent_iff :
    (do
      let q ← Act.ofExcept (c.requestFor directory "GET" url none none)
      carry.send q : Act σ Response).Yields s x s' ↔ Sent carry c directory url s x s' := by
  rw [yields_ofExcept_bind]
  constructor
  · rintro (⟨q, hq, h⟩ | ⟨f, hf, rfl, rfl⟩)
    · exact .exchanged hq (yields_exchange_iff.1 h)
    · exact .unmade hf
  · rintro (hf | ⟨hq, he⟩)
    · exact Or.inr ⟨_, hf, rfl, rfl⟩
    · exact Or.inl ⟨_, hq, yields_exchange_iff.2 he⟩

/-- An exchange fails with what the transport breaks off with, or because of an address. -/
theorem Sent.breaks_or_astray {f : Fault} (h : Sent carry c directory url s (.error f) s') :
    carry.Breaks f ∨ f.Astray := by
  cases h with
  | unmade hq =>
    have hsettles := c.settles_requestFor directory "GET" url
    rw [hq] at hsettles
    exact Or.inr (.address hsettles.of_error)
  | exchanged _ he => exact he.breaks_or_astray

end Sending

/-! ### From a response to data -/

/-- The kinds of trouble on the way that a client does not turn into failures. -/
def passedOn : List TransportKind :=
  [.localProtocol, .remoteProtocol, .protocol, .unsupportedScheme, .proxy, .transport, .decoding,
    .tooManyRedirects, .request]

theorem isConnection_eq_false_iff {k : TransportKind} : k.isConnection = false ↔ k ∈ passedOn := by
  cases k <;> decide

/-- What getting data comes to, by how the exchange for it ended. -/
inductive Settled (url : String) : Except Fault Response → Except Fault Value → Prop
  | data {r : Response} {v : Value} (hs : r.status < 400) (hj : r.json = .ok v) :
    Settled url (.ok r) (.ok v)
  | notJson {r : Response} {reason : String} (hs : r.status < 400) (hj : r.json = .error reason) :
    Settled url (.ok r) (.error (.failure (.service (.notJson url reason))))
  | rejected {r : Response} {detail : String} (hs : 400 ≤ r.status) (hd : r.Tells detail) :
    Settled url (.ok r) (.error (.failure (.service (.rejected r.status detail))))
  /-- The body is not JSON, and the encoding it is said to have cannot be read. -/
  | unreadable {r : Response} {reason : String} {f : Fault} (hs : 400 ≤ r.status)
    (hj : r.json = .error reason) (ht : r.text = .error f) : Settled url (.ok r) (.error f)
  | unreachable {e : TransportFault} (he : e.kind ∉ passedOn) :
    Settled url (.error (.transport e)) (.error (.failure (.service (.unreachable url e.message))))
  | passed {f : Fault} (hf : ∀ e, f = .transport e → e.kind ∈ passedOn) :
    Settled url (.error f) (.error f)

theorem accepted_of_lt {r : Response} (h : r.status < 400) : accepted r = .ok r := by
  rw [accepted, if_pos h]
  rfl

theorem accepted_of_le {r : Response} (h : 400 ≤ r.status) :
    (∃ detail, r.Tells detail ∧ accepted r = .error (.failure (.service (.rejected r.status detail)))) ∨
    ∃ reason f, r.json = .error reason ∧ r.text = .error f ∧ accepted r = .error f := by
  rw [accepted, if_neg (Nat.not_lt.2 h)]
  cases hd : explanation r with
  | ok detail => exact Or.inl ⟨detail, tells_of_explanation hd, rfl⟩
  | error f =>
    refine Or.inr ?_
    unfold explanation at hd
    split at hd
    next => cases hd
    next reason hj => exact ⟨reason, f, hj, map_eq_error hd, rfl⟩

/-- A fault on the way is trouble with the connection, or it comes through. -/
theorem settled_troubled (url : String) (f : Fault) :
    Settled url (.error f) (.error (troubled url f)) := by
  unfold troubled
  split
  next e =>
    split
    next he =>
      refine .unreachable fun hmem => ?_
      rw [isConnection_eq_false_iff.2 hmem] at he
      cases he
    next he =>
      refine .passed fun e' heq => ?_
      cases heq
      exact isConnection_eq_false_iff.1 (Bool.not_eq_true _ ▸ he)
  next f hf => exact .passed fun e heq => absurd heq (hf e)

section Settling

variable {carry : Transport σ} {c : Client} {directory : Url} {url : String} {s s' : σ}

theorem yields_of_attempt {α : Type} {a : Act σ α} {x : Except Fault α}
    (h : a.attempt.Yields s (.ok x) s') : a.Yields s x s' := by
  obtain ⟨ns, h⟩ := h
  rcases ha : a s with ⟨⟨ms, y⟩, t⟩
  rw [Act.attempt, ha] at h
  cases h
  exact ⟨ms, ha⟩

theorem yields_request (ho : c.directory = some directory) {y : Except Fault Response}
    (h : (c.request carry "GET" url none none).Yields s y s') :
    ∃ x, Sent carry c directory url s x s' ∧ y = (x.mapError (troubled url)).bind accepted := by
  rw [request, ho] at h
  dsimp only at h
  rcases Act.yields_bind.1 h with ⟨⟨⟩, t, ⟨ns, ht⟩, h⟩ | ⟨f, ⟨ns, ht⟩, -⟩
  · cases ht
    rcases Act.yields_bind.1 h with ⟨x, t, hx, h⟩ | ⟨f, ⟨ns, hf⟩, -⟩
    · obtain ⟨rfl, rfl⟩ := yields_ofExcept.1 h
      exact ⟨x, sent_iff.1 (yields_of_attempt hx), rfl⟩
    · cases hf
  · cases ht

/-- A request ends with a response whose status does not say no, or with the fault that getting data then
ends with. -/
theorem requested_cases (url : String) (x : Except Fault Response) :
    (∃ r, x = .ok r ∧ r.status < 400 ∧ (x.mapError (troubled url)).bind accepted = .ok r) ∨
    ∃ f, (x.mapError (troubled url)).bind accepted = .error f ∧ Settled url x (.error f) := by
  cases x with
  | error f => exact Or.inr ⟨troubled url f, rfl, settled_troubled url f⟩
  | ok r =>
    rcases Nat.lt_or_ge r.status 400 with hs | hs
    · exact Or.inl ⟨r, rfl, hs, accepted_of_lt hs⟩
    · rcases accepted_of_le hs with ⟨detail, hd, h⟩ | ⟨reason, f, hj, ht, h⟩
      · exact Or.inr ⟨_, h, .rejected hs hd⟩
      · exact Or.inr ⟨_, h, .unreadable hs hj ht⟩

/-- Getting data is an exchange and what its end comes to. -/
theorem exists_settled (ho : c.directory = some directory) (carry : Transport σ) (url : String) (s : σ) :
    ∃ x y s', Sent carry c directory url s x s' ∧ (c.getJson carry url).Yields s y s' ∧
      Settled url x y := by
  rcases hget : c.getJson carry url s with ⟨⟨ns, y⟩, s'⟩
  have hy : (c.getJson carry url).Yields s y s' := ⟨ns, hget⟩
  rcases Act.yields_bind.1 hy with ⟨r, t, hr, hdata⟩ | ⟨f, hf, rfl⟩
  · obtain ⟨x, hx, hrequest⟩ := yields_request ho hr
    rcases requested_cases url x with ⟨r', rfl, hs, h⟩ | ⟨f, h, -⟩
    · cases hrequest.trans h
      cases hj : r.json with
      | ok v =>
        rw [hj] at hdata
        obtain ⟨ms, hdata⟩ := hdata
        cases hdata
        exact ⟨_, _, _, hx, hy, .data hs hj⟩
      | error reason =>
        rw [hj] at hdata
        obtain ⟨ms, hdata⟩ := hdata
        cases hdata
        exact ⟨_, _, _, hx, hy, .notJson hs hj⟩
    · cases hrequest.trans h
  · obtain ⟨x, hx, hrequest⟩ := yields_request ho hf
    rcases requested_cases url x with ⟨r, -, -, h⟩ | ⟨f', h, hsettled⟩
    · cases hrequest.trans h
    · cases hrequest.trans h
      exact ⟨_, _, _, hx, hy, hsettled⟩

theorem Sent.unique {x x' : Except Fault Response} {t t' : σ} (h : Sent carry c directory url s x t)
    (h' : Sent carry c directory url s x' t') : x = x' ∧ t = t' := by
  obtain ⟨ns, h⟩ := sent_iff.2 h
  obtain ⟨ns', h'⟩ := sent_iff.2 h'
  cases h.symm.trans h'
  exact ⟨rfl, rfl⟩

/-! ### Responses -/

theorem message_rejected (status : Nat) (detail : String) :
    (Failure.service (.rejected status detail)).message =
      "HTTP " ++ toString status ++ (if detail = "" then "" else ": " ++ detail) := by
  have hempty : (detail.isEmpty = true) = (detail = "") := propext String.isEmpty_iff
  change "HTTP " ++ toString status ++ (if detail.isEmpty then "" else ": " ++ detail) = _
  simp only [hempty]

/-- A response with a status from 400 on is a failure of the family that the status tells, with a message
that begins with the status and goes on with what the response says about it. Any other response gives the
data that it spells, or a failure of the service if it spells none. -/
theorem getJson_of_response (ho : c.directory = some directory) {r : Response}
    (hr : Sent carry c directory url s (.ok r) s') (ht : ∃ text, r.text = .ok text) :
    (400 ≤ r.status → ∃ f detail, (c.getJson carry url).Yields s (.error (.failure f)) s' ∧
      r.Tells detail ∧
      f.message = "HTTP " ++ toString r.status ++ (if detail = "" then "" else ": " ++ detail) ∧
      (r.status = 401 ∨ r.status = 403 → f.kind = .auth) ∧
      (r.status = 404 → f.kind = .notFound) ∧
      (r.status ∉ [401, 403, 404] → f.kind = .server)) ∧
    (r.status < 400 →
      (∀ v, r.json = .ok v → (c.getJson carry url).Yields s (.ok v) s') ∧
      ∀ reason, r.json = .error reason →
        ∃ f, (c.getJson carry url).Yields s (.error (.failure f)) s' ∧ f.kind = .server) := by
  obtain ⟨x, y, t, hx, hy, hsettled⟩ := exists_settled ho carry url s
  obtain ⟨rfl, rfl⟩ := hr.unique hx
  cases hsettled with
  | data hs hj =>
    refine ⟨fun hge => absurd hs (Nat.not_lt.2 hge), fun _ => ⟨fun v hv => ?_, fun reason hv => ?_⟩⟩
    · cases hj.symm.trans hv
      exact hy
    · cases hj.symm.trans hv
  | notJson hs hj =>
    refine ⟨fun hge => absurd hs (Nat.not_lt.2 hge), fun _ => ⟨fun v hv => ?_, fun reason hv => ?_⟩⟩
    · cases hj.symm.trans hv
    · exact ⟨_, hy, rfl⟩
  | @rejected _ detail hs hd =>
    refine ⟨fun _ => ⟨_, detail, hy, hd, ?_, ?_, ?_, ?_⟩, fun hlt => absurd hlt (Nat.not_lt.2 hs)⟩
    · exact message_rejected r.status detail
    · rintro (h | h) <;> simp [Failure.kind, h]
    · intro h
      simp [Failure.kind, h]
    · intro h
      simp only [List.mem_cons, List.not_mem_nil, or_false, not_or] at h
      simp [Failure.kind, h]
  | unreadable _ _ hf =>
    obtain ⟨text, htext⟩ := ht
    rw [htext] at hf
    cases hf

/-! ### Trouble on the way -/

/-- Getting data fails with something else than a failure exactly if the way to a response did so for no
trouble with the connection, or if an error is told in characters that cannot be read. -/
theorem Settled.eq_error_iff {x : Except Fault Response} {y : Except Fault Value} {f : Fault}
    (h : Settled url x y) (hf : ∀ g, f ≠ .failure g) :
    y = .error f ↔ (x = .error f ∧ ∀ e, f = .transport e → e.kind ∈ passedOn) ∨
      ∃ r reason, x = .ok r ∧ 400 ≤ r.status ∧ r.json = .error reason ∧ r.text = .error f := by
  cases h with
  | data hs hj =>
    refine iff_of_false nofun ?_
    rintro (⟨⟨⟩, -⟩ | ⟨r, reason, ⟨⟩, hge, -⟩)
    exact absurd hs (Nat.not_lt.2 hge)
  | notJson hs hj =>
    refine iff_of_false (fun heq => hf _ (Except.error.inj heq).symm) ?_
    rintro (⟨⟨⟩, -⟩ | ⟨r, reason, ⟨⟩, hge, -⟩)
    exact absurd hs (Nat.not_lt.2 hge)
  | rejected hs hd =>
    refine iff_of_false (fun heq => hf _ (Except.error.inj heq).symm) ?_
    rintro (⟨⟨⟩, -⟩ | ⟨r, reason, ⟨⟩, -, hj, ht⟩)
    cases hd with
    | text _ htext =>
      rw [htext] at ht
      cases ht
    | value hv _ => cases hj.symm.trans hv
    | place hv _ _ _ => cases hj.symm.trans hv
    | nothing hv _ => cases hj.symm.trans hv
  | @unreadable r reason f' hs hj ht =>
    constructor
    · rintro ⟨⟩
      exact Or.inr ⟨r, reason, rfl, hs, hj, ht⟩
    · rintro (⟨⟨⟩, -⟩ | ⟨r', -, ⟨⟩, -, -, ht'⟩)
      rw [ht] at ht'
      exact congrArg Except.error (Except.error.inj ht')
  | unreachable he =>
    refine iff_of_false (fun heq => hf _ (Except.error.inj heq).symm) ?_
    rintro (⟨⟨⟩, hpassed⟩ | ⟨r, reason, ⟨⟩, -⟩)
    exact he (hpassed _ rfl)
  | passed hpassed =>
    constructor
    · rintro ⟨⟩
      exact Or.inl ⟨rfl, hpassed⟩
    · rintro (⟨⟨⟩, -⟩ | ⟨r, reason, ⟨⟩, -⟩)
      rfl

/-- Trouble with the connection is a failure that tells the address. -/
theorem Settled.eq_unreachable {e : TransportFault} {y : Except Fault Value}
    (h : Settled url (.error (.transport e)) y) (he : e.kind ∉ passedOn) :
    y = .error (.failure (.service (.unreachable url e.message))) := by
  cases h with
  | unreachable => rfl
  | passed hf => exact absurd (hf e rfl) he

end Settling

/-! ### Links -/

section Links

variable {carry : Transport σ} {c : Client} {l : Link Client} {given : Option Client} {s s' : σ}
  {y : Except Fault Value}

/-- Clients that get data for links. -/
def fetch (carry : Transport σ) : Fetch σ Client := fun c url =>
  c.getJson carry url

/-- A response that a link leads to can only be refused by the lift. -/
theorem exists_of_meaning_eq_error {v : Value} {f : Fault} (h : l.meaning c (.ok v) = .error f) :
    ∃ w, l.lift.run w = .error f := by
  unfold Link.meaning at h
  dsimp only at h
  split at h
  · exact ⟨v, map_eq_error h⟩
  all_goals
    obtain ⟨w, -, hw⟩ := Page.exists_of_liftItems_eq_error (map_eq_error (map_eq_error h))
    exact ⟨w, hw⟩

/-- A link that a client follows fails as getting its data does, and otherwise only for its lift. -/
theorem exists_resolved (hl : l.Uses given c) (hy : (c.getJson carry l.url).Yields s y s') :
    ∃ z, (l.resolve (fetch carry) given).Yields s z s' ∧
      (∀ f, y = .error f → z = .error f) ∧
      ∀ f, z = .error f → y = .error f ∨ ∃ w, l.lift.run w = .error f := by
  obtain ⟨ns, hy⟩ := hy
  have hresolve := Link.resolve_of_uses hl (fetch carry) s
  rw [fetch] at hresolve
  simp only [hy] at hresolve
  refine ⟨l.meaning c y, ⟨_, hresolve⟩, fun f hf => by rw [hf]; rfl, fun f hf => ?_⟩
  cases y with
  | error e =>
    cases hf
    exact Or.inl rfl
  | ok v => exact Or.inr (exists_of_meaning_eq_error hf)

end Links

/-- How getting data in an open client ends. Trouble with the connection is a failure that tells the address.
What else the way to a response ends with comes through as it is: what the transport broke off with, or why
the client did not go on. Beside that, only a response in characters that cannot be read ends with a fault
that is no failure. Links that the client follows fail alike, or for their lifts. -/
theorem foreseen_unless_passed {directory : Url} (ho : c.directory = some directory)
    (carry : Transport σ) (url : String) (s : σ) :
    ∃ x y s', Sent carry c directory url s x s' ∧ (c.getJson carry url).Yields s y s' ∧
      (∀ f, x = .error f → carry.Breaks f ∨ f.Astray) ∧
      (∀ e, x = .error (.transport e) → e.kind ∉ passedOn →
        y = .error (.failure (.service (.unreachable url e.message)))) ∧
      (∀ f, (∀ g, f ≠ .failure g) →
        (y = .error f ↔ (x = .error f ∧ ∀ e, f = .transport e → e.kind ∈ passedOn) ∨
          ∃ r reason, x = .ok r ∧ 400 ≤ r.status ∧ r.json = .error reason ∧ r.text = .error f)) ∧
      ∀ (l : Link Client) (given : Option Client), l.url = url → l.Uses given c →
        ∃ z, (l.resolve (fetch carry) given).Yields s z s' ∧
          (∀ f, y = .error f → z = .error f) ∧
          ∀ f, z = .error f → y = .error f ∨ ∃ w, l.lift.run w = .error f := by
  obtain ⟨x, y, s', hx, hy, hsettled⟩ := exists_settled ho carry url s
  refine ⟨x, y, s', hx, hy, ?_, ?_, fun f hf => hsettled.eq_error_iff hf, ?_⟩
  · rintro f rfl
    exact hx.breaks_or_astray
  · rintro e rfl he
    exact hsettled.eq_unreachable he
  · rintro l given rfl hl
    exact exists_resolved hl hy

/-! ### At one address -/

/-- A client without a base. -/
def plain : Client :=
  ⟨"", [], some {}⟩

/-- The request of that client. -/
def asked : Request :=
  ⟨"GET", { scheme := "https", host := "a", path := "/x" }, [], none⟩

theorem requestFor_asked : plain.requestFor {} "GET" "https://a/x" none none = .ok asked := by
  cbv

/-- A transport that breaks off with every request. -/
def breakingOff (e : TransportFault) : Transport Unit := fun _ s =>
  (⟨[], .error (.transport e)⟩, s)

theorem sent_breakingOff (e : TransportFault) :
    Sent (breakingOff e) plain {} "https://a/x" () (.error (.transport e)) () :=
  .exchanged requestFor_asked (.broken ⟨[], rfl⟩)

/-- A transport that always brings the same response. -/
def answering (r : Response) : Transport Unit := fun _ s =>
  (⟨[], .ok r⟩, s)

theorem sent_answering {r : Response} (hr : r.redirection? = none) :
    Sent (answering r) plain {} "https://a/x" () (.ok r) () := by
  have hscheme : asked.signed.requireScheme = .ok () := by
    rw [Request.requireScheme_signed]
    cbv
  exact .exchanged requestFor_asked (.arrived ⟨[], rfl⟩ hscheme hr)

/-- A page that is not there, with a body of two bytes that is no JSON. -/
def lacking : Response :=
  ⟨404, [], [110, 111]⟩

theorem getJson_of_response_lacking :
    plain.directory = some {} ∧ Sent (answering lacking) plain {} "https://a/x" () (.ok lacking) () ∧
    (∃ text, lacking.text = .ok text) ∧
    ∃ f detail, (plain.getJson (answering lacking) "https://a/x").Yields () (.error (.failure f)) () ∧
      f.kind = .notFound ∧ f.message = "HTTP 404" ++ (if detail = "" then "" else ": " ++ detail) := by
  have ho : plain.directory = some {} := rfl
  have hr : Sent (answering lacking) plain {} "https://a/x" () (.ok lacking) () := sent_answering rfl
  have ht : ∃ text, lacking.text = .ok text := ⟨_, rfl⟩
  obtain ⟨f, detail, hy, -, hmessage, -, hkind, -⟩ := (getJson_of_response ho hr ht).1 (by decide)
  exact ⟨ho, hr, ht, f, detail, hy, hkind rfl, hmessage⟩

theorem foreseen_unless_passed_timeout :
    plain.directory = some {} ∧
    (plain.getJson (breakingOff ⟨.readTimeout, "timed out"⟩) "https://a/x").Yields ()
      (.error (.failure (.service (.unreachable "https://a/x" "timed out")))) () := by
  have ho : plain.directory = some {} := rfl
  obtain ⟨x, y, s', hx, hy, -, hfailure, -⟩ :=
    foreseen_unless_passed ho (breakingOff ⟨.readTimeout, "timed out"⟩) "https://a/x" ()
  obtain ⟨rfl, -⟩ := hx.unique (sent_breakingOff _)
  rw [hfailure _ rfl (by decide)] at hy
  exact ⟨ho, hy⟩

/-- A service that hangs up without a word. -/
def hungUp : TransportFault :=
  ⟨.remoteProtocol, "Server disconnected without sending a response."⟩

/-- A page that a link leads to. -/
def adjacent : Link Client :=
  ⟨.page .next, "https://a/x", .identity, some plain⟩

/-- That a service hangs up is no foreseen failure, neither for a client nor for who follows a link. -/
theorem not_foreseen_hungUp :
    ∃ f, (∀ g, f ≠ .failure g) ∧
      (plain.getJson (breakingOff hungUp) "https://a/x").Yields () (.error f) () ∧
      (adjacent.resolve (fetch (breakingOff hungUp)) none).Yields () (.error f) () := by
  have ho : plain.directory = some {} := rfl
  obtain ⟨x, y, s', hx, hy, hsettled⟩ := exists_settled ho (breakingOff hungUp) "https://a/x" ()
  obtain ⟨rfl, rfl⟩ := hx.unique (sent_breakingOff hungUp)
  have hpassed : ∀ e, Fault.transport hungUp = .transport e → e.kind ∈ passedOn := by
    rintro e ⟨⟩
    decide
  rw [(hsettled.eq_error_iff (f := .transport hungUp) nofun).2 (Or.inl ⟨rfl, hpassed⟩)] at hy
  have huses : adjacent.Uses none plain := Or.inr ⟨rfl, rfl⟩
  obtain ⟨z, hz, hsame, -⟩ := exists_resolved huses hy
  rw [hsame _ rfl] at hz
  exact ⟨.transport hungUp, nofun, hy, hz⟩

end Client

end SchemaDecl
