import SchemaDecl.Http.Exchange
import SchemaDecl.Proofs.Outcomes
import SchemaDecl.Proofs.World

/-! Exchanges with a service, request by request. A response may send the client elsewhere, and so one
exchange can carry many requests; how it ends is said by a relation with a case for each way it can go. If
it breaks off, either the transport broke off with one of the requests, or the client does not go on after a
response: it was sent too often, or to an address at which it cannot ask. -/

namespace SchemaDecl

variable {σ : Type}

/-! ### Addresses -/

/-- An address cannot be read, or names a host that has no name. -/
inductive Fault.OfAddress : Fault → Prop
  | url (e : UrlError) : OfAddress (.badUrl e)
  | domain (e : DomainError) : OfAddress (.badDomain e)
  | ascii (e : Text.NotAscii) : OfAddress (.notAscii e)

/-- Why a client does not go on after a response. -/
inductive Fault.Astray : Fault → Prop
  /-- What keeps the responses needs addresses that begin with a scheme. -/
  | scheme (message : String) : Astray (.badValue message)
  | location (e : UrlError) :
    Astray (.transport ⟨.remoteProtocol, "Invalid URL in location header: " ++ e.message ++ "."⟩)
  | address {f : Fault} (h : f.OfAddress) : Astray f
  | tooOften : Astray (.transport ⟨.tooManyRedirects, "Exceeded maximum allowed redirects."⟩)

section Settling

variable {ε α : Type} {E : Fault → Prop}

theorem settles_pure (a : α) : Settles E (fun _ => True) (pure a : Except Fault α) :=
  .ok trivial

theorem settles_mapError {g : ε → Fault} (h : ∀ e, E (g e)) (x : Except ε α) :
    Settles E (fun _ => True) (x.mapError g) := by
  cases x with
  | error e => exact .error (h e)
  | ok a => exact .ok trivial

end Settling

open Fault (OfAddress Astray)

theorem settles_requireHost (u : Url) : Settles OfAddress (fun _ => True) u.requireHost :=
  settles_mapError .domain _

theorem settles_hostedBy (u other : Url) : Settles OfAddress (fun _ => True) (u.hostedBy other) := by
  unfold Url.hostedBy
  refine (settles_requireHost u).bind fun host _ => .ite ?_ (settles_pure u)
  exact (settles_requireHost other).bind fun host _ => settles_mapError .url _

theorem settles_isSameOrigin (a b : Url) : Settles OfAddress (fun _ => True) (a.isSameOrigin b) := by
  unfold Url.isSameOrigin
  refine .ite (settles_pure false) ((settles_requireHost a).bind fun host _ => ?_)
  exact (settles_requireHost b).bind fun host _ => settles_pure _

theorem settles_isUpgrade (a b : Url) : Settles OfAddress (fun _ => True) (a.isUpgrade b) := by
  unfold Url.isUpgrade
  refine (settles_requireHost a).bind fun host _ => ?_
  exact (settles_requireHost b).bind fun host _ => settles_pure _

/-! ### Requests -/

namespace Request

theorem settles_checked (q : Request) : Settles OfAddress (fun _ => True) q.checked := by
  unfold checked
  extract_lets done
  refine .ite ?_ (settles_pure q)
  refine (settles_requireHost q.url).bind fun host _ => ?_
  exact (settles_mapError .ascii _).bind fun _ _ => settles_pure q

theorem settles_nextUrl (url : Url) (location : String) :
    Settles Astray (fun _ => True) (nextUrl url location) := by
  have hurl (e : UrlError) : Astray (.badUrl e) := .address (.url e)
  unfold nextUrl
  refine (settles_mapError .location _).bind fun u _ => ?_
  extract_lets joined hosted
  -- the steps behind a choice are the same whichever way it went
  have hjoined (u : Url) : Settles Astray (fun _ => True) (joined u) :=
    .ite (settles_mapError hurl _) (settles_pure u)
  have hhosted (u : Url) : Settles Astray (fun _ => True) (hosted u) := by
    refine .ite ((settles_pure u).bind fun u _ => hjoined u) ?_
    exact (settles_mapError hurl _).bind fun u _ => hjoined u
  refine .ite ((settles_pure u).bind fun u _ => hhosted u) ?_
  exact ((settles_hostedBy u url).imp (fun _ => .address) fun _ h => h).bind fun u _ => hhosted u

theorem settles_nextHeaders (q : Request) (url : Url) :
    Settles OfAddress (fun _ => True) (q.nextHeaders url) := by
  unfold nextHeaders
  refine (settles_isSameOrigin url q.url).bind fun same _ => .ite (settles_pure _) ?_
  refine (settles_isUpgrade q.url url).bind fun upgrade _ => ?_
  exact (settles_mapError .ascii _).bind fun _ _ => settles_pure _

/-- A client goes on with another request unless it cannot ask at the address it is sent to. -/
theorem settles_next (q : Request) (status : Nat) (location : String) :
    Settles Astray (fun _ => True) (q.next status location) := by
  unfold next
  refine (settles_nextUrl q.url location).bind fun url _ => ?_
  exact ((settles_nextHeaders q url).imp (fun _ => .address) fun _ h => h).bind fun headers _ =>
    settles_pure _

theorem settles_requireScheme (q : Request) : Settles Astray (fun _ => True) q.requireScheme := by
  unfold requireScheme
  split
  extract_lets scheme
  exact .ite (.ok trivial) (.error (.scheme _))

/-- Credentials change nothing about the address. -/
theorem requireScheme_signed (q : Request) : q.signed.requireScheme = q.requireScheme := by
  unfold signed
  split <;> rfl

end Request

/-! ### Exchanges -/

/-- How an exchange goes from a request on. The client may be sent on so many times; the exchange ends with a
response that does not send it elsewhere, or it breaks off. -/
inductive Exchanged (carry : Transport σ) : Nat → Request → σ → Except Fault Response → σ → Prop
  | broken {left : Nat} {q : Request} {s s' : σ} {f : Fault} (hc : (carry q).Yields s (.error f) s') :
    Exchanged carry left q s (.error f) s'
  | schemeless {left : Nat} {q : Request} {s s' : σ} {r : Response} {f : Fault}
      (hc : (carry q).Yields s (.ok r) s') (hq : q.requireScheme = .error f) :
    Exchanged carry left q s (.error f) s'
  | arrived {left : Nat} {q : Request} {s s' : σ} {r : Response} (hc : (carry q).Yields s (.ok r) s')
      (hq : q.requireScheme = .ok ()) (hr : r.redirection? = none) :
    Exchanged carry left q s (.ok r) s'
  | astray {left : Nat} {q : Request} {s s' : σ} {r : Response} {location : String} {f : Fault}
      (hc : (carry q).Yields s (.ok r) s') (hq : q.requireScheme = .ok ())
      (hr : r.redirection? = some location) (hn : q.next r.status location = .error f) :
    Exchanged carry left q s (.error f) s'
  | tooOften {q q' : Request} {s s' : σ} {r : Response} {location : String}
      (hc : (carry q).Yields s (.ok r) s') (hq : q.requireScheme = .ok ())
      (hr : r.redirection? = some location) (hn : q.next r.status location = .ok q') :
    Exchanged carry 0 q s
      (.error (.transport ⟨.tooManyRedirects, "Exceeded maximum allowed redirects."⟩)) s'
  | onward {left : Nat} {q q' : Request} {s s' s'' : σ} {r : Response} {location : String}
      {x : Except Fault Response} (hc : (carry q).Yields s (.ok r) s')
      (hq : q.requireScheme = .ok ()) (hr : r.redirection? = some location)
      (hn : q.next r.status location = .ok q') (rest : Exchanged carry left q' s' x s'') :
    Exchanged carry (left + 1) q s x s''

theorem yields_ofExcept {α : Type} {x r : Except Fault α} {s s' : σ} :
    (Act.ofExcept x).Yields s r s' ↔ r = x ∧ s' = s := by
  constructor
  · rintro ⟨ns, h⟩
    cases h
    exact ⟨rfl, rfl⟩
  · rintro ⟨rfl, rfl⟩
    exact ⟨[], rfl⟩

/-- Work behind a step that may fail and leaves the state alone. -/
theorem yields_ofExcept_bind {α β : Type} {a : Except Fault α} {f : α → Act σ β} {x : Except Fault β}
    {s s' : σ} :
    (Act.ofExcept a >>= f).Yields s x s' ↔
      (∃ y, a = .ok y ∧ (f y).Yields s x s') ∨ ∃ e, a = .error e ∧ x = .error e ∧ s' = s := by
  rw [Act.yields_bind]
  simp only [yields_ofExcept]
  constructor
  · rintro (⟨y, t, ⟨rfl, rfl⟩, h⟩ | ⟨e, ⟨rfl, rfl⟩, rfl⟩)
    · exact Or.inl ⟨y, rfl, h⟩
    · exact Or.inr ⟨e, rfl, rfl, rfl⟩
  · rintro (⟨y, rfl, h⟩ | ⟨e, rfl, rfl, rfl⟩)
    · exact Or.inl ⟨y, s, ⟨rfl, rfl⟩, h⟩
    · exact Or.inr ⟨e, ⟨rfl, rfl⟩, rfl⟩

/-- What a client does with a response: it takes it, or it goes on. -/
def Transport.after (carry : Transport σ) (left : Nat) (q : Request) (r : Response) : Act σ Response :=
  match r.redirection? with
  | none => pure r
  | some location => do
    let next ← Act.ofExcept (q.next r.status location)
    match left with
    | 0 => Act.fail (.transport ⟨.tooManyRedirects, "Exceeded maximum allowed redirects."⟩)
    | left + 1 => carry.exchange left next

theorem Transport.exchange_eq (carry : Transport σ) (left : Nat) (q : Request) :
    carry.exchange left q = (do
      let r ← carry q
      Act.ofExcept q.requireScheme
      carry.after left q r) := by
  -- the recursion lies too deep inside the definition for an equation of its own
  unfold after
  delta exchange
  cases left <;> rfl

section Exchanges

variable {carry : Transport σ} {left : Nat} {q : Request} {s s' : σ} {x : Except Fault Response}

theorem yields_after_of_none {r : Response} (hr : r.redirection? = none) :
    (carry.after left q r).Yields s x s' ↔ x = .ok r ∧ s' = s := by
  rw [Transport.after, hr]
  exact yields_ofExcept

theorem yields_after_of_some {r : Response} {location : String} (hr : r.redirection? = some location) :
    (carry.after left q r).Yields s x s' ↔
      (∃ f, q.next r.status location = .error f ∧ x = .error f ∧ s' = s) ∨
      ∃ q', q.next r.status location = .ok q' ∧
        (left = 0 ∧ s' = s ∧
            x = .error (.transport ⟨.tooManyRedirects, "Exceeded maximum allowed redirects."⟩) ∨
          ∃ n, left = n + 1 ∧ (carry.exchange n q').Yields s x s') := by
  rw [Transport.after, hr]
  dsimp only
  rw [yields_ofExcept_bind, or_comm]
  refine or_congr Iff.rfl (exists_congr fun q' => and_congr_right fun _ => ?_)
  cases left with
  | zero =>
    constructor
    · rintro ⟨ns, h⟩
      cases h
      exact Or.inl ⟨rfl, rfl, rfl⟩
    · rintro (⟨-, rfl, rfl⟩ | ⟨n, hn, -⟩)
      · exact ⟨[], rfl⟩
      · cases hn
  | succ left =>
    constructor
    · exact fun h => Or.inr ⟨left, rfl, h⟩
    · rintro (⟨hn, -⟩ | ⟨n, hn, h⟩)
      · cases hn
      · cases hn
        exact h

/-- An exchange begins with one request, and ends there or with what the client does with the response. -/
theorem yields_exchange :
    (carry.exchange left q).Yields s x s' ↔
      (∃ f, (carry q).Yields s (.error f) s' ∧ x = .error f) ∨
      ∃ r t, (carry q).Yields s (.ok r) t ∧
        ((∃ f, q.requireScheme = .error f ∧ x = .error f ∧ s' = t) ∨
          q.requireScheme = .ok () ∧ (carry.after left q r).Yields t x s') := by
  rw [Transport.exchange_eq, Act.yields_bind, or_comm]
  refine or_congr Iff.rfl (exists_congr fun r => exists_congr fun t => and_congr_right fun _ => ?_)
  rw [yields_ofExcept_bind, or_comm]
  refine or_congr Iff.rfl ?_
  constructor
  · rintro ⟨⟨⟩, hq, h⟩
    exact ⟨hq, h⟩
  · exact fun h => ⟨(), h⟩

theorem Exchanged.yields (h : Exchanged carry left q s x s') : (carry.exchange left q).Yields s x s' := by
  induction h with
  | broken hc => exact yields_exchange.2 (Or.inl ⟨_, hc, rfl⟩)
  | schemeless hc hq => exact yields_exchange.2 (Or.inr ⟨_, _, hc, Or.inl ⟨_, hq, rfl, rfl⟩⟩)
  | arrived hc hq hr =>
    refine yields_exchange.2 (Or.inr ⟨_, _, hc, Or.inr ⟨hq, ?_⟩⟩)
    exact (yields_after_of_none hr).2 ⟨rfl, rfl⟩
  | astray hc hq hr hn =>
    refine yields_exchange.2 (Or.inr ⟨_, _, hc, Or.inr ⟨hq, ?_⟩⟩)
    exact (yields_after_of_some hr).2 (Or.inl ⟨_, hn, rfl, rfl⟩)
  | tooOften hc hq hr hn =>
    refine yields_exchange.2 (Or.inr ⟨_, _, hc, Or.inr ⟨hq, ?_⟩⟩)
    exact (yields_after_of_some hr).2 (Or.inr ⟨_, hn, Or.inl ⟨rfl, rfl, rfl⟩⟩)
  | onward hc hq hr hn _ ih =>
    refine yields_exchange.2 (Or.inr ⟨_, _, hc, Or.inr ⟨hq, ?_⟩⟩)
    exact (yields_after_of_some hr).2 (Or.inr ⟨_, hn, Or.inr ⟨_, rfl, ih⟩⟩)

/-- An exchange goes one of the ways there are if the exchange behind its first request does. -/
theorem exchanged_of_onward (h : (carry.exchange left q).Yields s x s')
    (hrest : ∀ n q' t, left = n + 1 → (carry.exchange n q').Yields t x s' →
      Exchanged carry n q' t x s') : Exchanged carry left q s x s' := by
  rcases yields_exchange.1 h with ⟨f, hc, rfl⟩ | ⟨r, t, hc, ⟨f, hq, rfl, rfl⟩ | ⟨hq, hafter⟩⟩
  · exact .broken hc
  · exact .schemeless hc hq
  · cases hr : r.redirection? with
    | none =>
      obtain ⟨rfl, rfl⟩ := (yields_after_of_none hr).1 hafter
      exact .arrived hc hq hr
    | some location =>
      rcases (yields_after_of_some hr).1 hafter with
        ⟨f, hn, rfl, rfl⟩ | ⟨q', hn, ⟨rfl, rfl, rfl⟩ | ⟨n, rfl, hnext⟩⟩
      · exact .astray hc hq hr hn
      · exact .tooOften hc hq hr hn
      · exact .onward hc hq hr hn (hrest n q' t rfl hnext)

/-- Every exchange goes one of these ways, and no other. -/
theorem yields_exchange_iff :
    (carry.exchange left q).Yields s x s' ↔ Exchanged carry left q s x s' := by
  refine ⟨fun h => ?_, Exchanged.yields⟩
  induction left generalizing q s with
  | zero => exact exchanged_of_onward h nofun
  | succ left ih =>
    refine exchanged_of_onward h fun n q' t hn h => ?_
    cases hn
    exact ih h

/-- The transport breaks off with a request. -/
def Transport.Breaks (carry : Transport σ) (f : Fault) : Prop :=
  ∃ q s s', (carry q).Yields s (.error f) s'

/-- An exchange fails with what the transport breaks off with, or because the client does not go on. -/
theorem Exchanged.breaks_or_astray {f : Fault} (h : Exchanged carry left q s (.error f) s') :
    carry.Breaks f ∨ f.Astray := by
  generalize hx : (Except.error f : Except Fault Response) = x at h
  induction h with
  | broken hc =>
    cases hx
    exact Or.inl ⟨_, _, _, hc⟩
  | @schemeless _ q _ _ _ _ _ hq =>
    cases hx
    have hsettles := q.settles_requireScheme
    rw [hq] at hsettles
    exact Or.inr hsettles.of_error
  | arrived => cases hx
  | @astray _ q _ _ r location _ _ _ _ hn =>
    cases hx
    have hsettles := q.settles_next r.status location
    rw [hn] at hsettles
    exact Or.inr hsettles.of_error
  | tooOften =>
    cases hx
    exact Or.inr .tooOften
  | onward _ _ _ _ _ ih => exact ih hx

end Exchanges

end SchemaDecl
