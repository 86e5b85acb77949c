import SchemaDecl.Proofs.Registry.Build

/-! Registries of documents without collisions. When no two definitions ask for one discriminant or for
one identifier, neither pass has anything to number or to leave out: each definition that declares a
discriminant gets it under the identifier of its own name, so the order of the definitions shows in
the order of the entries and nowhere else. -/

namespace SchemaDecl

namespace Document

open Registry (Entry)

/-- The entry that a definition asks for: its discriminant under the identifier of its name. -/
def claim? (x : Name × Definition) : Option Entry :=
  x.2.discriminant.bind fun tag => x.1.identifier?.map fun identifier => ⟨identifier, tag⟩

/-- The entries that the definitions ask for. -/
def claimed (d : Document) : List Entry :=
  d.entries.filterMap claim?

/-- No two definitions ask for the same discriminant or for the same identifier. -/
structure Distinct (d : Document) : Prop where
  identifiers : (d.claimed.map Entry.identifier).Nodup
  discriminants : (d.claimed.map Entry.discriminant).Nodup

theorem claimed_perm {d d' : Document} (h : d.entries.Perm d'.entries) : d.claimed.Perm d'.claimed :=
  h.filterMap _

theorem Distinct.perm {d d' : Document} (hd : d.Distinct) (h : d.entries.Perm d'.entries) :
    d'.Distinct where
  identifiers := ((claimed_perm h).map _).nodup_iff.1 hd.identifiers
  discriminants := ((claimed_perm h).map _).nodup_iff.1 hd.discriminants

end Document

namespace Registry

open Document Identifier

theorem fresh_of_not_mem {taken : List String} {base : String} (h : base ∉ taken) :
    fresh taken base = base := by
  rw [fresh, if_neg h]

/-- The first pass takes over what the definitions ask for as long as nothing repeats. -/
theorem claims_of_nodup {entries : List (Name × Definition)} (hn : Textual ⟨entries⟩) :
    ∀ found : List Entry, ((found ++ claimed ⟨entries⟩).map Entry.identifier).Nodup →
      ((found ++ claimed ⟨entries⟩).map Entry.discriminant).Nodup →
      (claims found entries).result = .ok (found ++ claimed ⟨entries⟩) := by
  induction entries with
  | nil =>
    intro found _ _
    rw [claims, show claimed ⟨[]⟩ = [] from rfl, List.append_nil]
    rfl
  | cons x entries ih =>
    intro found hi hd
    obtain ⟨name, d⟩ := x
    obtain ⟨⟨s, rfl : name = .text s⟩, hrest⟩ := List.forall_mem_cons.1 hn
    rw [claims]
    cases ht : d.discriminant with
    | none =>
      have hnone : claim? (.text s, d) = none := by rw [claim?, ht, Option.bind_none]
      have hskip : claimed ⟨(.text s, d) :: entries⟩ = claimed ⟨entries⟩ :=
        List.filterMap_cons_none hnone
      rw [hskip] at hi hd ⊢
      exact ih hrest found hi hd
    | some tag =>
      have hsome : claim? (.text s, d) = some ⟨ofName s, tag⟩ := by
        rw [claim?, ht, Option.bind_some, Name.identifier?_text, Option.map_some]
      have hclaim : claimed ⟨(.text s, d) :: entries⟩ = ⟨ofName s, tag⟩ :: claimed ⟨entries⟩ :=
        List.filterMap_cons_some hsome
      rw [hclaim] at hi hd ⊢
      have hfree : tag ∉ found.map Entry.discriminant := by
        rw [List.map_append, List.nodup_append] at hd
        intro hm
        exact hd.2.2 tag hm tag List.mem_cons_self rfl
      have hbase : ofName s ∉ found.map Entry.identifier := by
        rw [List.map_append, List.nodup_append] at hi
        intro hm
        exact hi.2.2 _ hm _ List.mem_cons_self rfl
      simp only [claimOf_eq_none.2 hfree, Name.identifier?_text, fresh_of_not_mem hbase]
      rw [List.append_cons found _ (claimed ⟨entries⟩)] at hi hd ⊢
      exact ih hrest _ hi hd

/-- The second pass leaves entries as they are when none of them repeats what was given out. -/
theorem additions_of_nodup {es : List Entry} :
    ∀ taken : List String, (taken ++ es.map Entry.identifier).Nodup → additions taken [] es = es := by
  induction es with
  | nil => exact fun _ _ => rfl
  | cons e es ih =>
    intro taken h
    rw [List.map_cons] at h
    have hrest : (e.identifier :: (taken ++ es.map Entry.identifier)).Nodup :=
      List.perm_middle.nodup_iff.1 h
    have hfree : e.identifier ∉ taken := fun hm =>
      (List.nodup_cons.1 hrest).1 (List.mem_append_left _ hm)
    rw [additions, if_neg (by simp)]
    dsimp only
    rw [fresh_of_not_mem hfree, ih _ hrest]

/-- A first registry holds what the definitions ask for if this repeats nothing. -/
theorem build_of_distinct {d : Document} (hn : d.Textual) (hd : d.Distinct) :
    (build d []).result = .ok ⟨d.claimed, hd.identifiers, hd.discriminants⟩ := by
  have hclaims : (claims [] d.entries).result = .ok d.claimed :=
    claims_of_nodup hn [] hd.identifiers hd.discriminants
  have hcombine : combine d.claimed [] = d.claimed :=
    additions_of_nodup [] hd.identifiers
  rw [build, Run.result_bind, hclaims]
  simp only [Except.bind, Run.result_bind, droppedNotices, hcombine,
    ofEntries_of_nodup hd.identifiers hd.discriminants]
  rfl

/-- Registries with the same entries in different orders have the same members. -/
theorem identifierFor_of_perm {r r' : Registry} (h : r.entries.Perm r'.entries) (tag : String) :
    r.identifierFor tag = r'.identifierFor tag := by
  refine Option.ext fun identifier => ?_
  rw [identifierFor_eq_some_iff, identifierFor_eq_some_iff]
  exact h.mem_iff

end Registry

end SchemaDecl
