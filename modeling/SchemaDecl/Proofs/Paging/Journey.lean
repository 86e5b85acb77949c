import SchemaDecl.Paging.Follow
import SchemaDecl.Proofs.Returns

/-! Journeys along links. A journey starts with the page of some response and follows links one after
another: to the neighbours of pages at hand, or those of references. What a step does is said by a
relation with a case for each way it can go, and a journey is shown to be one of legs by induction on
its visits. A log that the fetchers keep tells the requests. -/

namespace SchemaDecl

variable {σ F : Type}

theorem Run.result_map {α β : Type} (g : α → β) (x : Run α) : (g <$> x).result = x.result.map g := by
  refine (Run.result_bind x _).trans ?_
  cases x.result <;> rfl

namespace Link

/-- A link is followed by a fetcher that is named on the way, or else by the one it is bound to. -/
def Uses (l : Link F) (given : Option F) (f : F) : Prop :=
  given = some f ∨ given = none ∧ l.fetcher = some f

/-- What a link leads to when its address was asked for: an object is what the lift makes of the
response, a page what the response describes, with the lift of the link and the fetcher that was asked. -/
def meaning (l : Link F) (f : F) : Except Fault Value → Except Fault (Found F)
  | .error e => .error e
  | .ok raw =>
    match l.destination with
    | .object => (l.lift.run raw).map .value
    | .page _ | .collection => (Page.ofValue raw l.lift (some f)).result.map .page

/-- What is said on the way. -/
def remarks (l : Link F) (f : F) : Except Fault Value → List Notice
  | .ok raw => (l.arrive f raw).notices
  | .error _ => []

variable {l : Link F} {given : Option F} {f : F}

theorem result_arrive (raw : Value) : (l.arrive f raw).result = l.meaning f (.ok raw) := by
  unfold arrive meaning
  cases l.destination <;> exact Run.result_map _ _

/-- A page that a link leads to is the one that the response describes. -/
theorem exists_ofValue_of_meaning {response : Except Fault Value} {p : Page F}
    (h : l.meaning f response = .ok (.page p)) :
    ∃ raw, response = .ok raw ∧ (Page.ofValue raw l.lift (some f)).result = .ok p := by
  cases response with
  | error e => cases h
  | ok raw =>
    unfold meaning at h
    cases hd : l.destination <;> rw [hd] at h <;> obtain ⟨x, hx, he⟩ := map_eq_ok h <;> cases he
    · exact ⟨raw, rfl, hx⟩
    · exact ⟨raw, rfl, hx⟩

theorem Uses.orElse_eq (h : l.Uses given f) : (given <|> l.fetcher) = some f := by
  rcases h with rfl | ⟨rfl, hl⟩
  · rfl
  · exact hl

theorem chosen_of_uses (h : l.Uses given f) : l.chosen given = .ok f := by
  rw [chosen, h.orElse_eq]

theorem uses_or_unbound (l : Link F) (given : Option F) :
    (∃ f, l.Uses given f) ∨ given = none ∧ l.fetcher = none := by
  cases given with
  | some f => exact Or.inl ⟨f, Or.inl rfl⟩
  | none =>
    cases h : l.fetcher with
    | some f => exact Or.inl ⟨f, Or.inr ⟨rfl, h⟩⟩
    | none => exact Or.inr ⟨rfl, rfl⟩

/-- With a fetcher a link is one request, and what it leads to is the meaning of the response. -/
theorem resolve_of_uses (h : l.Uses given f) (fetch : Fetch σ F) (s : σ) :
    l.resolve fetch given s =
      (⟨(fetch f l.url s).1.notices ++ l.remarks f (fetch f l.url s).1.result,
        l.meaning f (fetch f l.url s).1.result⟩, (fetch f l.url s).2) := by
  rw [resolve, chosen_of_uses h]
  have hchosen : Act.ofExcept (.ok f) s = (⟨[], .ok f⟩, s) := rfl
  refine (Act.bind_of_ok hchosen).trans ?_
  rcases hf : fetch f l.url s with ⟨⟨ns, e | raw⟩, s'⟩
  · rw [Act.bind_of_error hf]
    simp [remarks, meaning]
  · rw [Act.bind_of_ok hf]
    simp [remarks, Act.ofRun, result_arrive]

/-- Without one nothing is asked. -/
theorem resolve_of_unbound (hg : given = none) (hl : l.fetcher = none) (fetch : Fetch σ F) (s : σ) :
    l.resolve fetch given s = (⟨[], .error (.failure (.unboundLink l.url))⟩, s) := by
  have hc : l.chosen given = .error (.failure (.unboundLink l.url)) := by
    rw [chosen, hg, hl]
    rfl
  rw [resolve, hc]
  rfl

end Link

/-! ### Journeys -/

/-- The page of a response, if its items can be lifted. -/
def Page.start (raw : Value) (lift : Lift) (fetcher : Option F) : List (Page F) :=
  (Page.ofValue raw lift fetcher).result.toOption.toList

/-- The link of a page to a neighbour. -/
def Page.neighbour (p : Page F) : Relation → Option (Link F)
  | .next => p.next
  | .prev => p.prev

/-- The links of a page that a response describes have the lift and the fetcher it was read with. -/
theorem Page.neighbour_of_ofValue {raw : Value} {lift : Lift} {fetcher : Option F} {p : Page F}
    (h : (Page.ofValue raw lift fetcher).result = .ok p) {r : Relation} {l : Link F}
    (hl : p.neighbour r = some l) :
    l.destination = .page r ∧ l.lift = lift ∧ l.fetcher = fetcher := by
  obtain ⟨items, -, rfl⟩ := map_eq_ok h
  cases r <;>
  · obtain ⟨url, -, rfl⟩ := Option.map_eq_some_iff.1 hl
    exact ⟨rfl, rfl, rfl⟩

/-- A request, and what came of it. -/
structure Asked (F : Type) where
  fetcher : F
  url : String
  response : Except Fault Value

/-- Fetchers that keep a log of what they are asked for. -/
def logged (fetch : Fetch σ F) : Fetch (σ × List (Asked F)) F := fun f url t =>
  ((fetch f url t.1).1, (fetch f url t.1).2, t.2 ++ [⟨f, url, (fetch f url t.1).1.result⟩])

/-- Where a link is taken from: a page at hand, by its number, or a reference. -/
inductive Origin (F : Type) where
  | neighbour (page : Nat) (r : Relation)
  | object (raw : Value) (lift : Lift) (fetcher : Option F)
  | collection (raw : Value) (lift : Lift) (fetcher : Option F)

def Origin.link? (pages : List (Page F)) : Origin F → Option (Link F)
  | .neighbour i r => pages[i]?.bind fun p => p.neighbour r
  | .object raw lift fetcher => Link.toObject raw lift fetcher
  | .collection raw lift fetcher => Link.toCollection raw lift fetcher

/-- A link that is to be followed, and the fetcher that is named for it. -/
structure Visit (F : Type) where
  origin : Origin F
  given : Option F

/-- A link that was followed, and how that ended. -/
structure Leg (F : Type) where
  link : Link F
  given : Option F
  outcome : Except Fault (Found F)

/-- The page that a step led to. -/
def Leg.page? (t : Leg F) : Option (Page F) :=
  match t.outcome with
  | .ok (.page p) => some p
  | _ => none

theorem Leg.outcome_of_page? {t : Leg F} {p : Page F} (h : t.page? = some p) :
    t.outcome = .ok (.page p) := by
  unfold page? at h
  split at h
  next hp =>
    cases h
    exact hp
  next => cases h

/-- The fetcher that a step used. -/
def Leg.fetcher? (t : Leg F) : Option F :=
  t.given <|> t.link.fetcher

/-- Follows links one after another. Each page that is found is at hand from then on; where there is no
link there is nothing to follow. -/
def travel (fetch : Fetch σ F) (pages : List (Page F)) :
    List (Visit F) → Act σ (List (Page F) × List (Leg F))
  | [] => pure (pages, [])
  | v :: vs =>
    match v.origin.link? pages with
    | none => travel fetch pages vs
    | some l => do
      let outcome ← Act.attempt (l.resolve fetch v.given)
      let t : Leg F := ⟨l, v.given, outcome⟩
      let (later, legs) ← travel fetch (pages ++ t.page?.toList) vs
      return (later, t :: legs)

/-- What the legs of a journey are, and the requests that they make. -/
inductive Journey : List (Page F) → List (Visit F) → List (Leg F) → List (Asked F) → Prop
  | stop {pages : List (Page F)} : Journey pages [] [] []
  | skip {pages : List (Page F)} {v : Visit F} {vs : List (Visit F)} {legs : List (Leg F)}
      {log : List (Asked F)} (hl : v.origin.link? pages = none) (rest : Journey pages vs legs log) :
      Journey pages (v :: vs) legs log
  | unbound {pages : List (Page F)} {v : Visit F} {vs : List (Visit F)} {legs : List (Leg F)}
      {log : List (Asked F)} {l : Link F} (hl : v.origin.link? pages = some l) (hg : v.given = none)
      (hf : l.fetcher = none) (rest : Journey pages vs legs log) :
      Journey pages (v :: vs) (⟨l, v.given, .error (.failure (.unboundLink l.url))⟩ :: legs) log
  | asked {pages : List (Page F)} {v : Visit F} {vs : List (Visit F)} {legs : List (Leg F)}
      {log : List (Asked F)} {l : Link F} {f : F} {response : Except Fault Value}
      (hl : v.origin.link? pages = some l) (hf : l.Uses v.given f)
      (rest : Journey (pages ++ (Leg.page? ⟨l, v.given, l.meaning f response⟩).toList) vs legs log) :
      Journey pages (v :: vs) (⟨l, v.given, l.meaning f response⟩ :: legs)
        (⟨f, l.url, response⟩ :: log)

section Travel

variable {fetch : Fetch σ F} {pages later : List (Page F)} {v : Visit F} {vs : List (Visit F)}
  {l : Link F} {legs : List (Leg F)} {s s₁ s₂ : σ} {ns ms : List Notice}

theorem travel_of_none (hl : v.origin.link? pages = none) :
    travel fetch pages (v :: vs) s = travel fetch pages vs s := by
  rw [travel, hl]

theorem travel_of_some {r : Except Fault (Found F)} (hl : v.origin.link? pages = some l)
    (hr : l.resolve fetch v.given s = (⟨ns, r⟩, s₁))
    (ht : travel fetch (pages ++ (Leg.page? ⟨l, v.given, r⟩).toList) vs s₁ =
      (⟨ms, .ok (later, legs)⟩, s₂)) :
    travel fetch pages (v :: vs) s = (⟨ns ++ ms, .ok (later, ⟨l, v.given, r⟩ :: legs)⟩, s₂) := by
  have hattempt : Act.attempt (l.resolve fetch v.given) s = (⟨ns, .ok r⟩, s₁) := by
    rw [Act.attempt, hr]
  rw [travel, hl]
  dsimp only
  rw [Act.bind_of_ok hattempt, Act.bind_of_ok ht]
  simp [pure]

theorem append_page (t : Leg F) :
    pages ++ t.page?.toList ++ legs.filterMap Leg.page? = pages ++ (t :: legs).filterMap Leg.page? := by
  cases h : t.page? <;> simp [h]

end Travel

/-- A journey goes leg by leg, whatever the fetchers answer; the pages that it finds come behind those
at hand, and the requests behind those in the log. -/
theorem exists_travel (fetch : Fetch σ F) (visits : List (Visit F)) (pages : List (Page F)) (s : σ)
    (before : List (Asked F)) :
    ∃ ns legs s' log,
      travel fetch pages visits s = (⟨ns, .ok (pages ++ legs.filterMap Leg.page?, legs)⟩, s') ∧
      travel (logged fetch) pages visits (s, before) =
        (⟨ns, .ok (pages ++ legs.filterMap Leg.page?, legs)⟩, s', before ++ log) ∧
      Journey pages visits legs log := by
  induction visits generalizing pages s before with
  | nil => exact ⟨[], [], s, [], by simp [travel, pure], by simp [travel, pure], .stop⟩
  | cons v vs ih =>
    cases hl : v.origin.link? pages with
    | none =>
      obtain ⟨ns, legs, s', log, ht, htl, hj⟩ := ih pages s before
      exact ⟨ns, legs, s', log, by rw [travel_of_none hl, ht], by rw [travel_of_none hl, htl],
        .skip hl hj⟩
    | some l =>
      rcases l.uses_or_unbound v.given with ⟨f, hf⟩ | ⟨hg, hb⟩
      · let response := (fetch f l.url s).1.result
        let t : Leg F := ⟨l, v.given, l.meaning f response⟩
        obtain ⟨ms, legs, s', log, ht, htl, hj⟩ := ih (pages ++ t.page?.toList) (fetch f l.url s).2
          (before ++ [⟨f, l.url, response⟩])
        rw [append_page] at ht
        rw [append_page, List.append_assoc before, List.singleton_append] at htl
        exact ⟨_, t :: legs, s', _, travel_of_some hl (Link.resolve_of_uses hf fetch s) ht,
          travel_of_some hl (Link.resolve_of_uses hf (logged fetch) (s, before)) htl, .asked hl hf hj⟩
      · let t : Leg F := ⟨l, v.given, .error (.failure (.unboundLink l.url))⟩
        have hnone : pages ++ t.page?.toList = pages := List.append_nil pages
        obtain ⟨ms, legs, s', log, ht, htl, hj⟩ := ih (pages ++ t.page?.toList) s before
        rw [append_page] at ht htl
        rw [hnone] at hj
        exact ⟨_, t :: legs, s', log, travel_of_some hl (Link.resolve_of_unbound hg hb fetch s) ht,
          travel_of_some hl (Link.resolve_of_unbound hg hb (logged fetch) (s, before)) htl,
          .unbound hl hg hb hj⟩

/-! ### What journeys have in common -/

namespace Journey

variable {pages : List (Page F)} {visits : List (Visit F)} {legs : List (Leg F)} {log : List (Asked F)}

/-- The requests are those of the legs that had a fetcher, in order: each to the address of its link. -/
theorem requests_eq (h : Journey pages visits legs log) :
    log.map (fun q => (q.fetcher, q.url)) =
      legs.filterMap fun t => t.fetcher?.map fun f => (f, t.link.url) := by
  induction h with
  | stop => rfl
  | skip _ _ ih => exact ih
  | unbound _ hg hf _ ih =>
    rw [List.filterMap_cons_none (by simp [Leg.fetcher?, hg, hf])]
    exact ih
  | asked _ hf _ ih =>
    rw [List.filterMap_cons_some (by rw [Leg.fetcher?, hf.orElse_eq, Option.map_some]), List.map_cons,
      ih]

/-- A leg without a fetcher fails, and the page of any other one has links with the lift of its link and
the fetcher that was used. -/
theorem forall_legs (h : Journey pages visits legs log) : ∀ t ∈ legs,
    (t.fetcher? = none → t.outcome = .error (.failure (.unboundLink t.link.url))) ∧
      ∀ p, t.page? = some p → t.fetcher?.isSome ∧ ∀ r l, p.neighbour r = some l →
        l.destination = .page r ∧ l.lift = t.link.lift ∧ l.fetcher = t.fetcher? := by
  induction h with
  | stop => simp
  | skip _ _ ih => exact ih
  | unbound _ _ _ _ ih =>
    refine List.forall_mem_cons.2 ⟨⟨fun _ => rfl, fun p hp => ?_⟩, ih⟩
    cases hp
  | @asked _ v _ _ _ l f response _ hf _ ih =>
    have hfetcher : Leg.fetcher? ⟨l, v.given, l.meaning f response⟩ = some f := hf.orElse_eq
    refine List.forall_mem_cons.2 ⟨⟨fun hn => ?_, fun p hp => ?_⟩, ih⟩
    · rw [hfetcher] at hn
      cases hn
    · rw [hfetcher]
      obtain ⟨raw, -, hpage⟩ := Link.exists_ofValue_of_meaning (Leg.outcome_of_page? hp)
      exact ⟨rfl, fun r l' hl' => Page.neighbour_of_ofValue hpage hl'⟩

end Journey

theorem travel_append {fetch : Fetch σ F} {vs ws : List (Visit F)} {pages later last : List (Page F)}
    {s s₁ s₂ : σ} {ns ms : List Notice} {legs more : List (Leg F)}
    (h : travel fetch pages vs s = (⟨ns, .ok (later, legs)⟩, s₁))
    (h' : travel fetch later ws s₁ = (⟨ms, .ok (last, more)⟩, s₂)) :
    ∃ ks, travel fetch pages (vs ++ ws) s = (⟨ks, .ok (last, legs ++ more)⟩, s₂) := by
  induction vs generalizing pages s ns legs with
  | nil =>
    cases h
    exact ⟨ms, h'⟩
  | cons v vs ih =>
    rw [List.cons_append]
    cases hl : v.origin.link? pages with
    | none =>
      rw [travel_of_none hl] at h ⊢
      exact ih h
    | some l =>
      rcases hr : l.resolve fetch v.given s with ⟨⟨ns₁, r⟩, t₁⟩
      obtain ⟨ns₂, legs₂, t₂, -, ht, -, -⟩ :=
        exists_travel fetch vs (pages ++ (Leg.page? ⟨l, v.given, r⟩).toList) t₁ []
      rw [travel_of_some hl hr ht] at h
      cases h
      obtain ⟨ks, hrest⟩ := ih ht
      exact ⟨_, travel_of_some hl hr hrest⟩

/-- Journeys along links from the page of any response. Each leg with a fetcher makes one request, to the
address of its link, the fetcher that was named going before the one that the link is bound to; each
other leg fails and makes none. What a leg comes to is the meaning of its response; the links of a page
carry the lift of the link that led there and the fetcher that was used. Going on leaves the legs and the
pages so far as they are. -/
theorem journey_of_travel (fetch : Fetch σ F) (raw : Value) (lift : Lift) (bound : Option F)
    (visits : List (Visit F)) (s : σ) :
    ∃ ns legs s' log,
      travel fetch (Page.start raw lift bound) visits s =
        (⟨ns, .ok (Page.start raw lift bound ++ legs.filterMap Leg.page?, legs)⟩, s') ∧
      travel (logged fetch) (Page.start raw lift bound) visits (s, []) =
        (⟨ns, .ok (Page.start raw lift bound ++ legs.filterMap Leg.page?, legs)⟩, s', log) ∧
      Journey (Page.start raw lift bound) visits legs log ∧
      (log.map fun q => (q.fetcher, q.url)) =
        (legs.filterMap fun t => t.fetcher?.map fun f => (f, t.link.url)) ∧
      (∀ p ∈ Page.start raw lift bound, ∀ r l, p.neighbour r = some l →
        l.destination = .page r ∧ l.lift = lift ∧ l.fetcher = bound) ∧
      (∀ t ∈ legs, (t.fetcher? = none → t.outcome = .error (.failure (.unboundLink t.link.url))) ∧
        ∀ p, t.page? = some p → t.fetcher?.isSome ∧ ∀ r l, p.neighbour r = some l →
          l.destination = .page r ∧ l.lift = t.link.lift ∧ l.fetcher = t.fetcher?) ∧
      ∀ more, ∃ ms others s'', travel fetch (Page.start raw lift bound) (visits ++ more) s =
        (⟨ms, .ok (Page.start raw lift bound ++ legs.filterMap Leg.page? ++ others.filterMap Leg.page?,
          legs ++ others)⟩, s'') := by
  obtain ⟨ns, legs, s', log, ht, htl, hj⟩ := exists_travel fetch visits (Page.start raw lift bound) s []
  refine ⟨ns, legs, s', log, ht, htl, hj, hj.requests_eq, ?_, hj.forall_legs, fun more => ?_⟩
  · intro p hp r l hl
    have hpage := eq_ok_of_toOption (Option.mem_toList.1 hp)
    exact Page.neighbour_of_ofValue hpage hl
  · obtain ⟨ms, others, s'', -, hmore, -, -⟩ :=
      exists_travel fetch more (Page.start raw lift bound ++ legs.filterMap Leg.page?) s' []
    obtain ⟨ks, hall⟩ := travel_append ht hmore
    exact ⟨ks, others, s'', hall⟩

end SchemaDecl
