import Mathlib.Data.List.Forall2
import SchemaDecl.Proofs.Paging.Journey

/-! The page of a response, part by part. Whatever a service answers, there is a page if only the lift takes
the items that it is given. Each part of the page is read from a field of its own, and a field that does not
hold what it should counts as absent. Two responses that agree on a field therefore agree on its part; the
count alone heeds a second field, that of the items, where it is missing. -/

namespace SchemaDecl.Page

variable {F : Type} {raw raw' : Value} {lift : Lift} {fetcher : Option F} {p p' : Page F}

/-! ### Items -/

theorem liftItems_eq_ok {vs ws : List Value} :
    liftItems lift vs = .ok ws ↔ List.Forall₂ (fun v w => lift.run v = .ok w) vs ws := by
  induction vs generalizing ws with
  | nil =>
    rw [List.forall₂_nil_left_iff]
    exact ⟨fun h => (Except.ok.inj h).symm, fun h => congrArg Except.ok h.symm⟩
  | cons v vs ih =>
    constructor
    · intro h
      obtain ⟨w, hw, h⟩ := bind_eq_ok h
      obtain ⟨ws, hws, ⟨⟩⟩ := bind_eq_ok h
      exact .cons hw (ih.1 hws)
    · rintro (_ | ⟨hw, hws⟩)
      rw [liftItems, hw, ih.2 hws]
      rfl

/-- Items can be lifted together if each of them can. -/
theorem exists_liftItems {vs : List Value} (h : ∀ v ∈ vs, ∃ w, lift.run v = .ok w) :
    ∃ ws, liftItems lift vs = .ok ws := by
  induction vs with
  | nil => exact ⟨[], rfl⟩
  | cons v vs ih =>
    obtain ⟨⟨w, hw⟩, hvs⟩ := List.forall_mem_cons.1 h
    obtain ⟨ws, hws⟩ := ih hvs
    exact ⟨w :: ws, by rw [liftItems, hw, hws]; rfl⟩

/-- Items cannot be lifted together because one of them cannot. -/
theorem exists_of_liftItems_eq_error {vs : List Value} {e : Fault} (h : liftItems lift vs = .error e) :
    ∃ v ∈ vs, lift.run v = .error e := by
  induction vs with
  | nil => cases h
  | cons v vs ih =>
    rcases bind_eq_error h with h | ⟨w, -, h⟩
    · exact ⟨v, List.mem_cons_self, h⟩
    · rcases bind_eq_error h with h | ⟨ws, -, h⟩
      · obtain ⟨v', hv', h⟩ := ih h
        exact ⟨v', List.mem_cons_of_mem _ hv', h⟩
      · cases h

/-- Items come of one list at most. -/
theorem eq_of_forall₂ {vs ws ws' : List Value}
    (h : List.Forall₂ (fun v w => lift.run v = .ok w) vs ws)
    (h' : List.Forall₂ (fun v w => lift.run v = .ok w) vs ws') : ws = ws' :=
  Except.ok.inj ((liftItems_eq_ok.2 h).symm.trans (liftItems_eq_ok.2 h'))

/-! ### Parts -/

/-- The lift takes all items of a response. -/
def Liftable (lift : Lift) (raw : Value) : Prop :=
  ∀ vs, raw.field? "data" = some (.list vs) → ∀ v ∈ vs, ∃ w, lift.run v = .ok w

/-- What the parts of a page have to do with the response. A response that is no object has no field. -/
structure Describes (raw : Value) (lift : Lift) (fetcher : Option F) (p : Page F) : Prop where
  /-- The items are those of the list, each of them lifted, in their order. -/
  items_of_list {vs : List Value} (h : raw.field? "data" = some (.list vs)) :
    List.Forall₂ (fun v w => lift.run v = .ok w) vs p.items
  items_of_other (h : ∀ vs, raw.field? "data" ≠ some (.list vs)) : p.items = []
  count_of_nat {n : Nat} (h : raw.field? "total_count" = some (.int n)) : p.totalCount = n
  /-- A truth value is no number, and no count is negative. -/
  count_of_other (h : ∀ n : Nat, raw.field? "total_count" ≠ some (.int n)) :
    p.totalCount = p.items.length
  neighbour_iff {r : Relation} {l : Link F} :
    p.neighbour r = some l ↔
      ∃ url, raw.field? r.word = some (.text url) ∧ url ≠ "" ∧ l = ⟨.page r, url, lift, fetcher⟩

theorem countOf_of_other (h : ∀ n : Nat, raw.field? "total_count" ≠ some (.int n)) (count : Nat) :
    countOf raw count = count := by
  unfold countOf
  split
  next n hn =>
    split
    next => rfl
    next hge =>
      rw [← Int.toNat_of_nonneg (Int.not_lt.1 hge)] at hn
      exact absurd hn (h n.toNat)
  next => rfl

theorem countOf_of_nat {n : Nat} (h : raw.field? "total_count" = some (.int n)) (count : Nat) :
    countOf raw count = n := by
  have hge : ¬(n : Int) < 0 := Int.not_lt.2 (Int.natCast_nonneg n)
  rw [countOf, h]
  simp only [if_neg hge, Int.toNat_natCast]

theorem urlOf?_eq_some {key url : String} :
    Link.urlOf? raw key = some url ↔ raw.field? key = some (.text url) ∧ url ≠ "" := by
  unfold Link.urlOf?
  split
  next found hfound =>
    rw [hfound]
    split
    next hempty =>
      refine iff_of_false nofun ?_
      rintro ⟨heq, hne⟩
      cases heq
      exact hne (beq_iff_eq.1 hempty)
    next hne =>
      constructor
      · rintro ⟨⟩
        exact ⟨rfl, fun h => hne (beq_iff_eq.2 h)⟩
      · rintro ⟨heq, -⟩
        cases heq
        rfl
  next hother => exact iff_of_false nofun fun h => hother url h.1

theorem toPage_eq_some {r : Relation} {l : Link F} :
    Link.toPage r raw lift fetcher = some l ↔
      ∃ url, raw.field? r.word = some (.text url) ∧ url ≠ "" ∧ l = ⟨.page r, url, lift, fetcher⟩ := by
  rw [Link.toPage, Link.under, Option.map_eq_some_iff]
  simp only [urlOf?_eq_some, and_assoc, eq_comm (b := l)]

theorem neighbour_assemble (r : Relation) (items : List Value) :
    (assemble raw lift fetcher items).neighbour r = Link.toPage r raw lift fetcher := by
  cases r <;> rfl

/-- A page that is there describes the response. -/
theorem describes_of_ofValue (h : (ofValue raw lift fetcher).result = .ok p) :
    Describes raw lift fetcher p := by
  obtain ⟨items, hitems, rfl⟩ := map_eq_ok h
  refine ⟨fun hlist => ?_, fun hother => ?_, fun hn => countOf_of_nat hn _,
    fun hn => countOf_of_other hn _, ?_⟩
  · rw [dataOf, hlist] at hitems
    exact liftItems_eq_ok.1 hitems
  · have hnone : dataOf raw = [] := by
      unfold dataOf
      split
      next vs hvs => exact absurd hvs (hother vs)
      next => rfl
    rw [hnone] at hitems
    exact (Except.ok.inj hitems).symm
  · intro r l
    rw [neighbour_assemble, toPage_eq_some]

theorem exists_ofValue (h : Liftable lift raw) (fetcher : Option F) :
    ∃ p, (ofValue raw lift fetcher).result = .ok p := by
  have hdata : ∀ v ∈ dataOf raw, ∃ w, lift.run v = .ok w := by
    unfold dataOf
    split
    next vs hvs => exact h vs hvs
    next => exact List.forall_mem_nil _
  obtain ⟨ws, hws⟩ := exists_liftItems hdata
  exact ⟨assemble raw lift fetcher ws, by rw [ofValue, hws]; rfl⟩

/-! ### Responses that agree on a field -/

namespace Describes

variable (h : Describes raw lift fetcher p) (h' : Describes raw' lift fetcher p')
include h h'

theorem items_eq (hdata : raw'.field? "data" = raw.field? "data") : p'.items = p.items := by
  by_cases hlist : ∃ vs, raw.field? "data" = some (.list vs)
  · obtain ⟨vs, hvs⟩ := hlist
    exact eq_of_forall₂ (h'.items_of_list (hdata.trans hvs)) (h.items_of_list hvs)
  · rw [h.items_of_other (not_exists.1 hlist),
      h'.items_of_other fun vs hvs => hlist ⟨vs, hdata.symm.trans hvs⟩]

theorem count_eq (hcount : raw'.field? "total_count" = raw.field? "total_count")
    (hitems : (∀ n : Nat, raw.field? "total_count" ≠ some (.int n)) →
      raw'.field? "data" = raw.field? "data") : p'.totalCount = p.totalCount := by
  by_cases hnat : ∃ n : Nat, raw.field? "total_count" = some (.int n)
  · obtain ⟨n, hn⟩ := hnat
    rw [h.count_of_nat hn, h'.count_of_nat (hcount.trans hn)]
  · have hother := not_exists.1 hnat
    rw [h.count_of_other hother, h'.count_of_other fun n hn => hother n (hcount.symm.trans hn),
      items_eq h h' (hitems hother)]

theorem neighbour_eq {r : Relation} (hlink : raw'.field? r.word = raw.field? r.word) :
    p'.neighbour r = p.neighbour r := by
  refine Option.ext fun l => ?_
  rw [h.neighbour_iff, h'.neighbour_iff, hlink]

end Describes

/-- Any response is a page if the lift takes its items, and the parts of the page are read from the fields
of the response. The page of another response has the same items, count or neighbour if the two agree on the
field for it, and for a count that the field does not give, on that of the items. -/
theorem parts_of_response (raw : Value) (lift : Lift) (fetcher : Option F) (h : Liftable lift raw) :
    ∃ p, (ofValue raw lift fetcher).result = .ok p ∧ Describes raw lift fetcher p ∧
      ∀ raw' p', (ofValue raw' lift fetcher).result = .ok p' →
        (raw'.field? "data" = raw.field? "data" → p'.items = p.items) ∧
        (raw'.field? "total_count" = raw.field? "total_count" →
          ((∀ n : Nat, raw.field? "total_count" ≠ some (.int n)) →
            raw'.field? "data" = raw.field? "data") →
          p'.totalCount = p.totalCount) ∧
        ∀ r : Relation, raw'.field? r.word = raw.field? r.word → p'.neighbour r = p.neighbour r := by
  obtain ⟨p, hp⟩ := exists_ofValue h fetcher
  have hdescribes := describes_of_ofValue hp
  refine ⟨p, hp, hdescribes, fun raw' p' hp' => ?_⟩
  have hother := describes_of_ofValue hp'
  exact ⟨hdescribes.items_eq hother, hdescribes.count_eq hother, fun r => hdescribes.neighbour_eq hother⟩

/-- A response with two items, a truth value for their count, one neighbour and an empty address. -/
def doubtful : Value :=
  .object [("total_count", .bool true), ("data", .list [.int 1, .text "a"]),
    ("next", .text "https://a/2"), ("prev", .text "")]

theorem parts_of_response_doubtful :
    Liftable .identity doubtful ∧ ∃ p : Page Unit, (ofValue doubtful .identity none).result = .ok p ∧
      p.items.length = 2 ∧ p.totalCount = 2 ∧ p.prev = none ∧
      p.next = some ⟨.page .next, "https://a/2", .identity, none⟩ := by
  have hlift : Liftable .identity doubtful := fun vs _ v _ => ⟨v, rfl⟩
  have hdata : doubtful.field? "data" = some (.list [.int 1, .text "a"]) := rfl
  obtain ⟨p, hp, hparts, -⟩ := parts_of_response doubtful .identity (none : Option Unit) hlift
  have hitems : p.items.length = 2 := (hparts.items_of_list hdata).length_eq.symm
  refine ⟨hlift, p, hp, hitems, ?_, ?_, ?_⟩
  · rw [hparts.count_of_other nofun, hitems]
  · refine Option.eq_none_iff_forall_ne_some.2 fun l hl => ?_
    obtain ⟨url, hurl, hne, -⟩ := hparts.neighbour_iff (r := .prev) |>.1 hl
    cases hurl
    exact hne rfl
  · exact (hparts.neighbour_iff (r := .next)).2 ⟨"https://a/2", rfl, by decide, rfl⟩

end SchemaDecl.Page
