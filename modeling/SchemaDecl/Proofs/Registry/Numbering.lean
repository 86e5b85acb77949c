import Mathlib.Data.Finset.Card
import Mathlib.Order.Bounds.Defs
import SchemaDecl.Proofs.Registry.Build

/-! Numbering identifiers that are taken. A search begins with an identifier and goes on with its variants,
from the number two on, for as long as its candidate is taken. Candidates never repeat, so each round
uses up one of the taken identifiers and there are no more rounds than these. Both passes of building a
registry find every identifier that they give out by such a search, among the identifiers given out
before it. -/

namespace SchemaDecl

namespace Identifier

/-! ### Searches -/

/-- The candidates of a search in their order: the identifier, then its variants. -/
def candidate (base : String) : Nat → String
  | 0 => base
  | i + 1 => numbered base (i + 2)

theorem candidate_injective (base : String) : Function.Injective (candidate base) := by
  intro i j h
  cases i with
  | zero =>
    cases j with
    | zero => rfl
    | succ j => exact absurd h.symm (numbered_ne base (j + 2))
  | succ i =>
    cases j with
    | zero => exact absurd h (numbered_ne base (i + 2))
    | succ j =>
      have hnumber := numbered_injective base h
      omega

/-- A search among taken identifiers, which stands at a candidate and has a number for the next one: in
each of its rounds the candidate is taken and makes room for the variant with that number, until the
candidate is free. -/
inductive Search (taken : Finset String) (base : String) : String → Nat → Nat → String → Prop
  | stop {s : String} {k : Nat} (free : s ∉ taken) : Search taken base s k 0 s
  | round {s t : String} {k rounds : Nat} (held : s ∈ taken)
      (rest : Search taken base (numbered base k) (k + 1) rounds t) :
      Search taken base s k (rounds + 1) t

section Search

variable {taken : Finset String} {base : String}

theorem search_zero_iff {s t : String} {k : Nat} : Search taken base s k 0 t ↔ t = s ∧ t ∉ taken := by
  constructor
  · intro h
    cases h with
    | stop free => exact ⟨rfl, free⟩
  · rintro ⟨rfl, free⟩
    exact .stop free

theorem search_succ_iff {s t : String} {k rounds : Nat} :
    Search taken base s k (rounds + 1) t ↔
      s ∈ taken ∧ Search taken base (numbered base k) (k + 1) rounds t := by
  constructor
  · intro h
    cases h with
    | round held rest => exact ⟨held, rest⟩
  · rintro ⟨held, rest⟩
    exact .round held rest

/-- From any candidate on, a search passes over those that are taken and ends at one that is free. -/
theorem search_candidate_iff {i rounds : Nat} {t : String} :
    Search taken base (candidate base i) (i + 2) rounds t ↔
      t = candidate base (i + rounds) ∧ t ∉ taken ∧ ∀ j < rounds, candidate base (i + j) ∈ taken := by
  induction rounds generalizing i with
  | zero => simp [search_zero_iff]
  | succ rounds ih =>
    -- the variant that a round comes to is the next candidate
    have hrest : Search taken base (numbered base (i + 2)) (i + 2 + 1) rounds t ↔ _ := ih (i := i + 1)
    rw [search_succ_iff, hrest, Nat.forall_lt_succ_left, Nat.succ_add_eq_add_succ]
    simp only [Nat.succ_add_eq_add_succ, Nat.add_zero]
    constructor
    · rintro ⟨held, ht, free, hbelow⟩
      exact ⟨ht, free, held, hbelow⟩
    · rintro ⟨ht, free, held, hbelow⟩
      exact ⟨held, ht, free, hbelow⟩

/-- A whole search begins with the identifier itself and has two for the next number. -/
theorem search_iff {rounds : Nat} {t : String} :
    Search taken base base 2 rounds t ↔
      t = candidate base rounds ∧ t ∉ taken ∧ ∀ j < rounds, candidate base j ∈ taken := by
  have h : Search taken base (candidate base 0) (0 + 2) rounds t ↔ _ := search_candidate_iff
  simp only [Nat.zero_add] at h
  exact h

/-- A search ends in one way only. -/
theorem Search.unique {m n : Nat} {s t : String} (hs : Search taken base base 2 m s)
    (ht : Search taken base base 2 n t) : m = n ∧ s = t := by
  obtain ⟨rfl, hsfree, hsbelow⟩ := search_iff.1 hs
  obtain ⟨rfl, htfree, htbelow⟩ := search_iff.1 ht
  have hmn : m = n := by
    rcases Nat.lt_trichotomy m n with hlt | heq | hgt
    · exact absurd (htbelow m hlt) hsfree
    · exact heq
    · exact absurd (hsbelow n hgt) htfree
  exact ⟨hmn, congrArg _ hmn⟩

/-- The candidates that a search passes over are different from each other, and all of them are taken. -/
theorem Search.rounds_le_card {rounds : Nat} {t : String} (h : Search taken base base 2 rounds t) :
    rounds ≤ taken.card := by
  obtain ⟨-, -, hbelow⟩ := search_iff.1 h
  calc rounds = (Finset.range rounds).card := (Finset.card_range rounds).symm
    _ ≤ taken.card := Finset.card_le_card_of_injOn (candidate base)
        (fun j hj => hbelow j (Finset.mem_range.1 hj)) (candidate_injective base).injOn

/-- How a search from an identifier ends: after no more rounds than there are taken identifiers, with the
identifier itself if that is free and otherwise with the variant of the least number that is. -/
structure Sought (taken : Finset String) (base s : String) : Prop where
  ends : ∃ rounds, Search taken base base 2 rounds s ∧ rounds ≤ taken.card
  of_free : base ∉ taken → s = base
  of_taken : base ∈ taken → ∃ k, IsLeast {k | 2 ≤ k ∧ numbered base k ∉ taken} k ∧ s = numbered base k

theorem Search.sought {rounds : Nat} {s : String} (h : Search taken base base 2 rounds s) :
    Sought taken base s where
  ends := ⟨rounds, h, h.rounds_le_card⟩
  of_free hfree := (h.unique (.stop hfree)).2
  of_taken htaken := by
    obtain ⟨rfl, hfree, hbelow⟩ := search_iff.1 h
    cases rounds with
    | zero => exact absurd htaken hfree
    | succ i =>
      refine ⟨i + 2, ⟨⟨by omega, hfree⟩, fun k hk => ?_⟩, rfl⟩
      obtain ⟨htwo, hkfree⟩ := hk
      by_contra hlt
      obtain ⟨j, rfl⟩ := Nat.exists_eq_add_of_le' htwo
      exact hkfree (hbelow (j + 1) (by omega))

end Search

/-- The identifier that is given out is the one at which a search among the taken ones ends. -/
theorem exists_search_fresh (taken : List String) (base : String) :
    ∃ rounds, Search taken.toFinset base base 2 rounds (fresh taken base) := by
  rw [fresh]
  split
  next hbase =>
    obtain ⟨m, hm, he, hfree, hbelow⟩ := firstFree_eq taken base 2
    obtain ⟨i, rfl⟩ := Nat.exists_eq_add_of_le' hm
    refine ⟨i + 1, search_iff.2 ⟨he, ?_, fun j hj => ?_⟩⟩
    · rwa [he, List.mem_toFinset]
    · rw [List.mem_toFinset]
      cases j with
      | zero => exact hbase
      | succ j => exact hbelow (j + 2) (by omega) (by omega)
  next hbase => exact ⟨0, .stop (by rwa [List.mem_toFinset])⟩

theorem sought_fresh (taken : List String) (base : String) :
    Sought taken.toFinset base (fresh taken base) := by
  obtain ⟨rounds, h⟩ := exists_search_fresh taken base
  exact h.sought

end Identifier

namespace Registry

open Document Identifier

/-! ### Passes -/

/-- Entries that were given out one after the other, beside others with the identifiers `taken`: each has
an identifier that was sought from one that `Asks` has for its discriminant, among those of the others
and of the entries before it. -/
inductive Numbered (Asks : Entry → Prop) : Finset String → List Entry → Prop
  | nil {taken : Finset String} : Numbered Asks taken []
  | cons {taken : Finset String} {base s tag : String} {es : List Entry} (asked : Asks ⟨base, tag⟩)
      (sought : Sought taken base s) (rest : Numbered Asks (insert s taken) es) :
      Numbered Asks taken (⟨s, tag⟩ :: es)

theorem Numbered.imp {Asks Asks' : Entry → Prop} {taken : Finset String} {es : List Entry}
    (h : Numbered Asks taken es)
    (himp : ∀ e ∈ es, ∀ base, Asks ⟨base, e.discriminant⟩ → Asks' ⟨base, e.discriminant⟩) :
    Numbered Asks' taken es := by
  induction h with
  | nil => exact .nil
  | cons asked sought rest ih =>
    have hhead := himp _ List.mem_cons_self _ asked
    exact .cons hhead sought (ih fun e he => himp e (List.mem_cons_of_mem _ he))

/-- The first definition that declares a discriminant asks for the identifier of its name. -/
def AskedIn (entries : List (Name × Definition)) (e : Entry) : Prop :=
  ∃ s, declarerIn entries e.discriminant = some (.text s) ∧ e.identifier = ofName s

theorem askedIn_cons_of_ne {x : Name × Definition} {entries : List (Name × Definition)} {e : Entry}
    (h : x.2.discriminant ≠ some e.discriminant) (he : AskedIn entries e) : AskedIn (x :: entries) e := by
  obtain ⟨s, hs, hbase⟩ := he
  exact ⟨s, (declarerIn_cons_of_ne h).trans hs, hbase⟩

/-- The first pass seeks the identifiers that it puts behind those of earlier claims. -/
theorem numbered_claims {found out : List Entry} {entries : List (Name × Definition)}
    (h : (claims found entries).result = .ok out) :
    ∃ added, out = found ++ added ∧ (∀ e ∈ added, e.discriminant ∉ found.map Entry.discriminant) ∧
      Numbered (AskedIn entries) (found.map Entry.identifier).toFinset added := by
  induction entries generalizing found with
  | nil =>
    cases h
    exact ⟨[], (List.append_nil _).symm, List.forall_mem_nil _, .nil⟩
  | cons x entries ih =>
    rcases claims_cons found x entries with ⟨hclaimed, hr⟩ | ⟨t, hd, ht, ⟨s, hs, hr⟩ | ⟨v, -, hr⟩⟩
    -- none of the later claims is on a discriminant that `x` declares, so `x` asks for none of them
    · rw [hr] at h
      obtain ⟨added, hout, hnew, hnumbered⟩ := ih h
      refine ⟨added, hout, hnew, hnumbered.imp fun e he base => askedIn_cons_of_ne fun hd => ?_⟩
      exact hnew e he (hclaimed _ hd)
    · rw [hr] at h
      obtain ⟨added, rfl, hnew, hnumbered⟩ := ih h
      have hothers : ∀ e ∈ added, e.discriminant ∉ found.map Entry.discriminant ∧
          e.discriminant ≠ t := by
        intro e he
        simpa [not_or] using hnew e he
      have hasked : AskedIn (x :: entries) ⟨ofName s, t⟩ :=
        ⟨s, by rw [declarerIn_cons_self hd, hs], rfl⟩
      refine ⟨_, List.append_assoc _ _ _, ?_, .cons hasked (sought_fresh _ _) ?_⟩
      · exact List.forall_mem_cons.2 ⟨ht, fun e he => (hothers e he).1⟩
      · rw [List.map_append, List.toFinset_append, Finset.union_comm] at hnumbered
        refine hnumbered.imp fun e he base => askedIn_cons_of_ne fun hsame => ?_
        exact (hothers e he).2 (Option.some.inj (hsame.symm.trans hd))
    · rw [hr] at h
      cases h

/-- The second pass seeks the identifiers of the claims that it adds. -/
theorem numbered_additions (taken tags : List String) (claims : List Entry) :
    Numbered (· ∈ claims) taken.toFinset (additions taken tags claims) := by
  induction claims generalizing taken with
  | nil => exact .nil
  | cons c claims ih =>
    rw [additions]
    have himp : ∀ {taken : Finset String} {es : List Entry}, Numbered (· ∈ claims) taken es →
        Numbered (· ∈ c :: claims) taken es :=
      fun h => h.imp fun _ _ _ => List.mem_cons_of_mem c
    split
    next => exact himp (ih taken)
    next =>
      have hrest := himp (ih (fresh taken c.identifier :: taken))
      rw [List.toFinset_cons] at hrest
      exact .cons List.mem_cons_self (sought_fresh taken c.identifier) hrest

/-- Whatever is taken, the search for a free identifier ends after no more rounds than there are taken ones, at
the identifier itself or at the variant of the least number that is free. By such searches the first pass
gives the claims of a document their identifiers, each among those of the claims before it, and the second
pass numbers the claims that it puts behind the entries of an earlier run; unless the first one meets a name
that is no text. -/
theorem numbered_of_build (taken : List String) (base : String) (d : Document) (previous : List Entry) :
    (Sought taken.toFinset base (fresh taken base) ∧
      ∀ rounds s, Search taken.toFinset base base 2 rounds s →
        rounds ≤ taken.toFinset.card ∧ s = fresh taken base) ∧
    ((∃ cl added, (claims [] d.entries).result = .ok cl ∧ Numbered (AskedIn d.entries) ∅ cl ∧
        combine cl previous = kept cl previous ++ added ∧
        Numbered (· ∈ cl) ((kept cl previous).map Entry.identifier).toFinset added ∧
        (build d previous).result =
          (ofEntries (combine cl previous)).mapError fun e => .badValue e.message) ∨
      (build d previous).result = .error .wrongType ∧ ∃ e ∈ d.entries, ∃ v, e.1 = .other v) := by
  refine ⟨⟨sought_fresh taken base, fun rounds s h => ?_⟩, ?_⟩
  · obtain ⟨n, hfresh⟩ := exists_search_fresh taken base
    exact ⟨h.rounds_le_card, (h.unique hfresh).2⟩
  · rcases claims_result [] d.entries List.nodup_nil with ⟨cl, hcl, -⟩ | ⟨hother, hname⟩
    · obtain ⟨added, rfl, -, hnumbered⟩ := numbered_claims hcl
      refine Or.inl ⟨_, _, hcl, hnumbered, rfl, numbered_additions _ _ _, ?_⟩
      simp only [build, Run.result_bind, hcl, Except.bind]
      cases ofEntries _ <;> rfl
    · refine Or.inr ⟨?_, hname⟩
      rw [build, Run.result_bind, hother]
      rfl

/-- An entry of an earlier run takes what the first claim asks for. -/
example : combine [⟨"a_b", "/1"⟩, ⟨"a_b_2", "/2"⟩] [⟨"a_b", "/2"⟩] = [⟨"a_b", "/2"⟩, ⟨"a_b_2", "/1"⟩] := by
  cbv

end Registry

end SchemaDecl
