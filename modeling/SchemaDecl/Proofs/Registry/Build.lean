import SchemaDecl.Registry
import SchemaDecl.Proofs.Document.Names
import SchemaDecl.Proofs.FirstSeen
import SchemaDecl.Proofs.Identifier.Fresh

/-! Building a registry. The definitions claim their discriminants in a first pass and the entries of an
earlier run are joined with these claims in a second one; both passes number identifiers that are
taken, each by what it has given out itself. The registry is there for every document whose names
are texts: what is left of the earlier entries, and behind them an entry for each discriminant that
is new. -/

namespace SchemaDecl

namespace Document

/-- Some definition declares the discriminant. -/
def Declares (d : Document) (tag : String) : Prop :=
  ∃ e ∈ d.entries, e.2.discriminant = some tag

/-- The discriminants that definitions declare, in their order. -/
def tagsOf (entries : List (Name × Definition)) : List String :=
  entries.filterMap fun e => e.2.discriminant

/-- The discriminants of a document, each at its first place. -/
def discriminants (d : Document) : List String :=
  firstSeen (tagsOf d.entries)

/-- The name of the first definition that declares a discriminant. -/
def declarerIn (entries : List (Name × Definition)) (tag : String) : Option Name :=
  (entries.find? fun e => e.2.discriminant == some tag).map Prod.fst

theorem declarerIn_cons_of_ne {x : Name × Definition} {entries : List (Name × Definition)} {tag : String}
    (h : x.2.discriminant ≠ some tag) : declarerIn (x :: entries) tag = declarerIn entries tag := by
  rw [declarerIn, List.find?_cons_of_neg (by simpa using h)]
  rfl

theorem declarerIn_cons_self {x : Name × Definition} {entries : List (Name × Definition)} {tag : String}
    (h : x.2.discriminant = some tag) : declarerIn (x :: entries) tag = some x.1 := by
  rw [declarerIn, List.find?_cons_of_pos (by simpa using h)]
  rfl

theorem mem_discriminants {d : Document} {tag : String} : tag ∈ d.discriminants ↔ d.Declares tag := by
  simp [discriminants, tagsOf, Declares]

end Document

namespace Definition

/-- A definition that says nothing. -/
def blank : Definition :=
  ⟨none, none, none, none, none, none, [], ⟨none, .null, none, .null⟩⟩

/-- An object that is told by a discriminant. -/
def tagged (tag : String) : Definition :=
  { blank with
    properties := some [(tagProperty, { blank with notes := ⟨none, .text tag, none, .null⟩ })] }

end Definition

namespace Registry

open Document Identifier

/-! ### Look-up -/

theorem identifierFor_eq_some_iff {r : Registry} {tag identifier : String} :
    r.identifierFor tag = some identifier ↔ ⟨identifier, tag⟩ ∈ r.entries := by
  simp only [identifierFor, Option.map_eq_some_iff,
    find?_key_eq_some_iff (p := (· == tag)) (fun _ => beq_iff_eq) r.discriminants_nodup]
  constructor
  · rintro ⟨e, ⟨he, rfl⟩, rfl⟩
    exact he
  · intro h
    exact ⟨_, ⟨h, rfl⟩, rfl⟩

theorem discriminantFor_eq_some_iff {r : Registry} {tag identifier : String} :
    r.discriminantFor identifier = some tag ↔ ⟨identifier, tag⟩ ∈ r.entries := by
  simp only [discriminantFor, Option.map_eq_some_iff,
    find?_key_eq_some_iff (p := (· == identifier)) (fun _ => beq_iff_eq) r.identifiers_nodup]
  constructor
  · rintro ⟨e, ⟨he, rfl⟩, rfl⟩
    exact he
  · intro h
    exact ⟨_, ⟨h, rfl⟩, rfl⟩

theorem exists_identifierFor_iff {r : Registry} {tag : String} :
    (∃ identifier, r.identifierFor tag = some identifier) ↔
      tag ∈ r.entries.map Entry.discriminant := by
  simp only [identifierFor_eq_some_iff, List.mem_map]
  constructor
  · rintro ⟨i, h⟩
    exact ⟨_, h, rfl⟩
  · rintro ⟨e, h, rfl⟩
    exact ⟨e.identifier, h⟩

theorem isSome_claimOf {claims : List Entry} {tag : String} :
    (claimOf claims tag).isSome ↔ tag ∈ claims.map Entry.discriminant := by
  simp [claimOf]

theorem claimOf_eq_none {claims : List Entry} {tag : String} :
    claimOf claims tag = none ↔ tag ∉ claims.map Entry.discriminant := by
  rw [← isSome_claimOf]
  simp

/-! ### Entries without repetitions -/

theorem repetition?_eq_none {seen es : List Entry}
    (hi : ((seen.reverse ++ es).map Entry.identifier).Nodup)
    (hd : ((seen.reverse ++ es).map Entry.discriminant).Nodup) : repetition? seen es = none := by
  induction es generalizing seen with
  | nil => rfl
  | cons e es ih =>
    have hi' : e.identifier ∉ seen.map Entry.identifier := by
      rw [List.map_append, List.nodup_append] at hi
      intro h
      exact hi.2.2 _ (by simpa using h) _ (by simp) rfl
    have hd' : e.discriminant ∉ seen.map Entry.discriminant := by
      rw [List.map_append, List.nodup_append] at hd
      intro h
      exact hd.2.2 _ (by simpa using h) _ (by simp) rfl
    rw [repetition?, if_neg (by simpa using hi'), if_neg (by simpa using hd')]
    exact ih (by simpa using hi) (by simpa using hd)

theorem ofEntries_of_nodup {es : List Entry} (hi : (es.map Entry.identifier).Nodup)
    (hd : (es.map Entry.discriminant).Nodup) : ofEntries es = .ok ⟨es, hi, hd⟩ := by
  have hn : repetition? [] es = none := repetition?_eq_none hi hd
  unfold ofEntries
  split
  next r h => rw [hn] at h; cases h
  next => rfl

theorem ofEntries_entries {es : List Entry} {r : Registry} (h : ofEntries es = .ok r) :
    r.entries = es := by
  unfold ofEntries at h
  split at h
  next => cases h
  next => cases h; rfl

/-! ### The claims of definitions -/

/-- What the first pass makes of definitions after the claims `found`. -/
structure Claims (found : List Entry) (entries : List (Name × Definition)) (added : List Entry) :
    Prop where
  identifiers_nodup : ((found ++ added).map Entry.identifier).Nodup
  discriminants_eq : added.map Entry.discriminant =
    (firstSeen (tagsOf entries)).filter fun t => !(found.map Entry.discriminant).contains t
  suffixed : ∀ e ∈ added, ∃ s, declarerIn entries e.discriminant = some (.text s) ∧
    Suffixed (ofName s) e.identifier

theorem Claims.discriminant_not_mem {found added : List Entry} {entries : List (Name × Definition)}
    (h : Claims found entries added) {e : Entry} (he : e ∈ added) :
    e.discriminant ∉ found.map Entry.discriminant := by
  have hm : e.discriminant ∈ added.map Entry.discriminant := List.mem_map_of_mem he
  rw [h.discriminants_eq, List.mem_filter] at hm
  simpa using hm.2

/-- A definition whose discriminant is claimed, or that has none, adds nothing. -/
theorem Claims.skip {found added : List Entry} {entries : List (Name × Definition)}
    {x : Name × Definition} (h : Claims found entries added)
    (hx : ∀ t, x.2.discriminant = some t → t ∈ found.map Entry.discriminant) :
    Claims found (x :: entries) added where
  identifiers_nodup := h.identifiers_nodup
  discriminants_eq := by
    rw [h.discriminants_eq]
    cases hd : x.2.discriminant with
    | none => simp [tagsOf, hd]
    | some t =>
      have ht := hx t hd
      rw [show tagsOf (x :: entries) = t :: tagsOf entries by simp [tagsOf, hd], firstSeen_cons,
        List.filter_cons_of_neg (by simpa using ht), List.filter_filter]
      refine List.filter_congr fun y _ => ?_
      by_cases hy : y = t
      · subst hy
        simpa using ht
      · simp [hy]
  suffixed e he := by
    obtain ⟨s, hs, hsuf⟩ := h.suffixed e he
    have hne : x.2.discriminant ≠ some e.discriminant := fun hd => h.discriminant_not_mem he (hx _ hd)
    exact ⟨s, (declarerIn_cons_of_ne hne).trans hs, hsuf⟩

/-- A definition whose discriminant is not claimed yet claims it. -/
theorem Claims.claim {found added : List Entry} {entries : List (Name × Definition)} {s t : String}
    {d : Definition}
    (h : Claims (found ++ [⟨fresh (found.map Entry.identifier) (ofName s), t⟩]) entries added)
    (hd : d.discriminant = some t) (ht : t ∉ found.map Entry.discriminant) :
    Claims found ((.text s, d) :: entries)
      (⟨fresh (found.map Entry.identifier) (ofName s), t⟩ :: added) where
  identifiers_nodup := by simpa using h.identifiers_nodup
  discriminants_eq := by
    rw [show tagsOf ((.text s, d) :: entries) = t :: tagsOf entries by simp [tagsOf, hd],
      firstSeen_cons, List.filter_cons_of_pos (by simpa using ht), List.map_cons, h.discriminants_eq,
      List.filter_filter]
    congr 1
    refine List.filter_congr fun y _ => ?_
    by_cases hy : y = t <;> simp [hy]
  suffixed e he := by
    rcases List.mem_cons.1 he with rfl | ha
    · exact ⟨s, declarerIn_cons_self hd, suffixed_fresh _ _⟩
    · obtain ⟨s', hs, hsuf⟩ := h.suffixed e ha
      have hne : d.discriminant ≠ some e.discriminant := by
        intro hsame
        refine h.discriminant_not_mem ha ?_
        obtain rfl : t = e.discriminant := Option.some.inj (hd.symm.trans hsame)
        simp
      exact ⟨s', (declarerIn_cons_of_ne hne).trans hs, hsuf⟩

theorem nodup_append_fresh {found : List Entry} (hi : (found.map Entry.identifier).Nodup)
    (base tag : String) :
    ((found ++ [Entry.mk (fresh (found.map Entry.identifier) base) tag]).map
      Entry.identifier).Nodup := by
  rw [List.map_append, List.nodup_append]
  refine ⟨hi, by simp, ?_⟩
  rintro a ha b hb rfl
  obtain rfl : a = fresh (found.map Entry.identifier) base := by simpa using hb
  exact fresh_not_mem _ _ ha

/-- What one definition does in the first pass: nothing, if its discriminant is claimed or it has none; else
it claims it under the identifier of its name, for which the name has to be a text. -/
theorem claims_cons (found : List Entry) (x : Name × Definition) (entries : List (Name × Definition)) :
    ((∀ t, x.2.discriminant = some t → t ∈ found.map Entry.discriminant) ∧
      (claims found (x :: entries)).result = (claims found entries).result) ∨
    ∃ t, x.2.discriminant = some t ∧ t ∉ found.map Entry.discriminant ∧
      ((∃ s, x.1 = .text s ∧ (claims found (x :: entries)).result =
          (claims (found ++ [⟨fresh (found.map Entry.identifier) (ofName s), t⟩]) entries).result) ∨
        ∃ v, x.1 = .other v ∧ (claims found (x :: entries)).result = .error .wrongType) := by
  obtain ⟨name, d⟩ := x
  rw [claims]
  cases hd : d.discriminant with
  | none => exact Or.inl ⟨by simp, rfl⟩
  | some t =>
    cases hf : claimOf found t with
    | some e =>
      have ht : t ∈ found.map Entry.discriminant := isSome_claimOf.1 (by simp [hf])
      refine Or.inl ⟨by simpa using ht, ?_⟩
      simp only [hf, Run.result_bind, Run.tell, Except.bind]
    | none =>
      refine Or.inr ⟨t, rfl, claimOf_eq_none.1 hf, ?_⟩
      cases name with
      | text s => exact Or.inl ⟨s, rfl, by simp only [hf, Name.identifier?_text]⟩
      | other v =>
        refine Or.inr ⟨v, rfl, ?_⟩
        simp only [hf]
        rfl

/-- The first pass goes through, whatever was claimed before it, unless a definition without a text for
its name declares a discriminant. -/
theorem claims_result (found : List Entry) (entries : List (Name × Definition))
    (hi : (found.map Entry.identifier).Nodup) :
    (∃ added, (claims found entries).result = .ok (found ++ added) ∧ Claims found entries added) ∨
      (claims found entries).result = .error .wrongType ∧ ∃ e ∈ entries, ∃ v, e.1 = .other v := by
  induction entries generalizing found with
  | nil => exact Or.inl ⟨[], by simp [claims], by simpa using hi, rfl, by simp⟩
  | cons x entries ih =>
    have hlater : (∃ e ∈ entries, ∃ v, e.1 = .other v) → ∃ e ∈ x :: entries, ∃ v, e.1 = .other v :=
      fun ⟨e, he, hv⟩ => ⟨e, List.mem_cons_of_mem _ he, hv⟩
    rcases claims_cons found x entries with ⟨hclaimed, hr⟩ | ⟨t, hd, ht, ⟨s, hs, hr⟩ | ⟨v, hv, hr⟩⟩
    · rw [hr]
      exact (ih found hi).imp (fun ⟨added, ha, hc⟩ => ⟨added, ha, hc.skip hclaimed⟩)
        (And.imp_right hlater)
    · obtain ⟨name, d⟩ := x
      obtain rfl : name = .text s := hs
      rw [hr]
      refine (ih _ (nodup_append_fresh hi (ofName s) t)).imp (fun ⟨added, ha, hc⟩ => ?_)
        (And.imp_right hlater)
      exact ⟨_ :: added, by simpa only [List.append_assoc, List.singleton_append] using ha,
        hc.claim hd ht⟩
    · exact Or.inr ⟨hr, x, List.mem_cons_self, v, hv⟩

/-! ### Joining the claims with earlier entries -/

/-- What the second pass adds for some claims when `taken` are the identifiers of the entries that were
kept and `tags` their discriminants. -/
structure Additions (taken tags : List String) (claims added : List Entry) : Prop where
  identifiers_nodup : (added.map Entry.identifier).Nodup
  not_taken : ∀ e ∈ added, e.identifier ∉ taken
  discriminants_eq : added.map Entry.discriminant =
    (claims.map Entry.discriminant).filter fun t => !tags.contains t
  suffixed : ∀ e ∈ added, ∃ c ∈ claims, c.discriminant = e.discriminant ∧
    Suffixed c.identifier e.identifier

theorem additions_spec (taken tags : List String) (claims : List Entry) :
    Additions taken tags claims (additions taken tags claims) := by
  induction claims generalizing taken with
  | nil => exact ⟨by simp [additions], by simp [additions], by simp [additions], by simp [additions]⟩
  | cons c claims ih =>
    rw [additions]
    by_cases hc : c.discriminant ∈ tags
    · have h := ih taken
      rw [if_pos (by simpa using hc)]
      refine ⟨h.identifiers_nodup, h.not_taken, ?_, fun e he => ?_⟩
      · rw [h.discriminants_eq, List.map_cons, List.filter_cons_of_neg (by simpa using hc)]
      · obtain ⟨c', hc', hs⟩ := h.suffixed e he
        exact ⟨c', List.mem_cons_of_mem _ hc', hs⟩
    · have h := ih (fresh taken c.identifier :: taken)
      rw [if_neg (by simpa using hc)]
      refine ⟨?_, fun e he => ?_, ?_, fun e he => ?_⟩
      · rw [List.map_cons, List.nodup_cons]
        refine ⟨fun hm => ?_, h.identifiers_nodup⟩
        obtain ⟨e, he, hid⟩ := List.mem_map.1 hm
        exact h.not_taken e he (hid ▸ List.mem_cons_self)
      · rcases List.mem_cons.1 he with rfl | he
        · exact fresh_not_mem taken c.identifier
        · exact fun hm => h.not_taken e he (List.mem_cons_of_mem _ hm)
      · rw [List.map_cons, List.map_cons, h.discriminants_eq,
          List.filter_cons_of_pos (by simpa using hc)]
      · rcases List.mem_cons.1 he with rfl | he
        · exact ⟨c, List.mem_cons_self, rfl, suffixed_fresh taken c.identifier⟩
        · obtain ⟨c', hc', hs⟩ := h.suffixed e he
          exact ⟨c', List.mem_cons_of_mem _ hc', hs⟩

/-- The entries of an earlier run whose discriminants a document still declares. -/
def survivors (d : Document) (previous : List Entry) : List Entry :=
  previous.filter fun e => d.discriminants.contains e.discriminant

/-- The entries that a run puts behind those of an earlier one: one for each discriminant that these
lack, in the order of the first definitions that declare them and under the identifiers of their
names, perhaps numbered. -/
structure Additional (d : Document) (previous added : List Entry) : Prop where
  discriminants_eq : added.map Entry.discriminant =
    d.discriminants.filter fun t => !(previous.map Entry.discriminant).contains t
  suffixed : ∀ e ∈ added, ∃ s, declarerIn d.entries e.discriminant = some (.text s) ∧
    Suffixed (ofName s) e.identifier

theorem mem_survivors {d : Document} {previous : List Entry} {e : Entry} :
    e ∈ survivors d previous ↔ e ∈ previous ∧ d.Declares e.discriminant := by
  simp [survivors, mem_discriminants]

theorem map_discriminant_survivors (d : Document) (previous : List Entry) :
    (survivors d previous).map Entry.discriminant =
      (previous.map Entry.discriminant).filter fun t => d.discriminants.contains t := by
  rw [survivors, List.filter_map]
  rfl

theorem Additional.discriminant_not_mem {d : Document} {previous added : List Entry}
    (h : Additional d previous added) {t : String} (ht : t ∈ previous.map Entry.discriminant) :
    t ∉ added.map Entry.discriminant := by
  intro hm
  rw [h.discriminants_eq, List.mem_filter] at hm
  simp [ht] at hm

/-- What a build comes down to: the entries that survive and additional ones, none of which has an
identifier of another, are made into a registry. -/
theorem build_of_claims {d : Document} {cl : List Entry} (hr : (claims [] d.entries).result = .ok cl)
    (hc : Claims [] d.entries cl) (previous : List Entry) :
    ∃ added, Additional d previous added ∧ (added.map Entry.identifier).Nodup ∧
      (∀ e ∈ added, e.identifier ∉ (survivors d previous).map Entry.identifier) ∧
      (build d previous).result =
        (ofEntries (survivors d previous ++ added)).mapError fun e => .badValue e.message := by
  have hcl : cl.map Entry.discriminant = d.discriminants := by
    rw [hc.discriminants_eq, List.filter_eq_self.2 (by simp)]
    rfl
  have hkept : kept cl previous = survivors d previous := by
    refine List.filter_congr fun e _ => ?_
    rw [Bool.eq_iff_iff, isSome_claimOf, hcl, List.contains_iff_mem]
  have ha := additions_spec ((survivors d previous).map Entry.identifier)
    ((survivors d previous).map Entry.discriminant) cl
  refine ⟨_, ⟨?_, fun e he => ?_⟩, ha.identifiers_nodup, ha.not_taken, ?_⟩
  · rw [ha.discriminants_eq, hcl]
    refine List.filter_congr fun t ht => ?_
    have : t ∈ (survivors d previous).map Entry.discriminant ↔
        t ∈ previous.map Entry.discriminant := by
      rw [map_discriminant_survivors, List.mem_filter, List.contains_iff_mem, and_iff_left ht]
    exact congrArg not (Bool.eq_iff_iff.2 (by simpa only [List.contains_iff_mem] using this))
  · obtain ⟨c, hcm, hcd, hcs⟩ := ha.suffixed e he
    obtain ⟨s, hs, hsuf⟩ := hc.suffixed c hcm
    exact ⟨s, hcd ▸ hs, hsuf.trans hcs⟩
  · have hcombine : combine cl previous = survivors d previous ++
        additions ((survivors d previous).map Entry.identifier)
          ((survivors d previous).map Entry.discriminant) cl := by
      rw [← hkept]
      rfl
    simp only [build, Run.result_bind, hr, hcombine, Except.bind]
    cases ofEntries _ <;> rfl

/-- The entries of whatever registry comes out. -/
theorem entries_of_build {d : Document} (hn : d.Textual) {previous : List Entry} {r : Registry}
    (h : (build d previous).result = .ok r) :
    ∃ added, Additional d previous added ∧ r.entries = survivors d previous ++ added := by
  obtain ⟨cl, hr, hc⟩ := (claims_result [] d.entries List.nodup_nil).resolve_right
    fun he => hn.not_other he.2
  obtain ⟨added, ha, -, -, hb⟩ := build_of_claims hr hc previous
  rw [hb] at h
  refine ⟨added, ha, ?_⟩
  cases he : ofEntries (survivors d previous ++ added) with
  | error e => rw [he] at h; cases h
  | ok r' =>
    rw [he] at h
    cases h
    exact ofEntries_entries he

/-- A registry comes out when the earlier entries repeat nothing, unless a definition is without a text
for its name. -/
theorem exists_build_or_unnamed (d : Document) {previous : List Entry}
    (hi : (previous.map Entry.identifier).Nodup) (hd : (previous.map Entry.discriminant).Nodup) :
    (∃ r, (build d previous).result = .ok r) ∨
      (build d previous).result = .error .wrongType ∧ ∃ e ∈ d.entries, ∃ v, e.1 = .other v := by
  rcases claims_result [] d.entries List.nodup_nil with ⟨cl, hr, hc⟩ | ⟨hr, he⟩
  · left
    obtain ⟨added, ha, hai, hnt, hb⟩ := build_of_claims hr hc previous
    have hsub : (survivors d previous).Sublist previous := List.filter_sublist
    have hids : ((survivors d previous ++ added).map Entry.identifier).Nodup := by
      rw [List.map_append, List.nodup_append]
      refine ⟨hi.sublist (hsub.map _), hai, ?_⟩
      rintro a hs b hb rfl
      obtain ⟨e, he, rfl⟩ := List.mem_map.1 hb
      exact hnt e he hs
    have htags : ((survivors d previous ++ added).map Entry.discriminant).Nodup := by
      rw [List.map_append, List.nodup_append]
      refine ⟨hd.sublist (hsub.map _), ?_, ?_⟩
      · rw [ha.discriminants_eq]
        exact (nodup_firstSeen _).filter _
      · rintro a hs b hb rfl
        exact ha.discriminant_not_mem ((hsub.map _).subset hs) hb
    exact ⟨_, by rw [hb, ofEntries_of_nodup hids htags]; rfl⟩
  · right
    refine ⟨?_, he⟩
    rw [build, Run.result_bind, hr]
    rfl

theorem exists_build {d : Document} (hn : d.Textual) {previous : List Entry}
    (hi : (previous.map Entry.identifier).Nodup) (hd : (previous.map Entry.discriminant).Nodup) :
    ∃ r, (build d previous).result = .ok r :=
  (exists_build_or_unnamed d hi hd).resolve_right fun he => hn.not_other he.2

/-- The discriminants of a registry are those that its document declares. -/
theorem exists_identifierFor_iff_declares {d : Document} (hn : d.Textual) {previous : List Entry}
    {r : Registry} (h : (build d previous).result = .ok r) {tag : String} :
    (∃ identifier, r.identifierFor tag = some identifier) ↔ d.Declares tag := by
  obtain ⟨added, ha, he⟩ := entries_of_build hn h
  rw [exists_identifierFor_iff, he, List.map_append, List.mem_append, ha.discriminants_eq,
    List.mem_filter, mem_discriminants, Bool.not_eq_true', Bool.eq_false_iff, Ne, List.contains_iff_mem]
  constructor
  · rintro (hs | ⟨hd, -⟩)
    · obtain ⟨e, he, rfl⟩ := List.mem_map.1 hs
      exact (mem_survivors.1 he).2
    · exact hd
  · intro hd
    by_cases hp : tag ∈ previous.map Entry.discriminant
    · obtain ⟨e, he, rfl⟩ := List.mem_map.1 hp
      exact Or.inl (List.mem_map_of_mem (mem_survivors.2 ⟨he, hd⟩))
    · exact Or.inr ⟨hd, hp⟩

/-- Building joins the entries that survive with the additional ones into two columns without
repetitions, which therefore determine each other. -/
theorem build_survivors_then_additional (d : Document) (hn : d.Textual) (previous : List Entry)
    (hi : (previous.map Entry.identifier).Nodup) (hd : (previous.map Entry.discriminant).Nodup) :
    ∃ r added, (build d previous).result = .ok r ∧ r.entries = survivors d previous ++ added ∧
      Additional d previous added ∧
      (r.entries.map Entry.identifier).Nodup ∧ (r.entries.map Entry.discriminant).Nodup ∧
      (∀ tag identifier,
        r.identifierFor tag = some identifier ↔ r.discriminantFor identifier = some tag) ∧
      ∀ tag, (∃ identifier, r.identifierFor tag = some identifier) ↔ d.Declares tag := by
  obtain ⟨r, hr⟩ := exists_build hn hi hd
  obtain ⟨added, ha, he⟩ := entries_of_build hn hr
  refine ⟨r, added, hr, he, ha, r.identifiers_nodup, r.discriminants_nodup, fun tag identifier => ?_,
    fun tag => exists_identifierFor_iff_declares hn hr⟩
  rw [identifierFor_eq_some_iff, discriminantFor_eq_some_iff]

/-- Four definitions whose names come to two identifiers and whose discriminants to three. -/
def crowded : Document :=
  ⟨[(.text "A-b", .tagged "x"), (.text "A_b", .tagged "y"), (.text "A b", .tagged "x"),
    (.text "A_b_2", .tagged "z")]⟩

theorem build_crowded :
    ∃ r, (build crowded [⟨"A_b", "z"⟩, ⟨"Gone", "w"⟩]).result = .ok r ∧
      r.entries.map Entry.discriminant = ["z", "x", "y"] ∧ r.identifierFor "z" = some "A_b" ∧
      r.discriminantFor "A_b" = some "z" := by
  obtain ⟨r, added, hr, he, ha, -, -, hinv, -⟩ :=
    build_survivors_then_additional crowded (by simp [crowded]) [⟨"A_b", "z"⟩, ⟨"Gone", "w"⟩]
      (by decide) (by decide)
  have hs : survivors crowded [⟨"A_b", "z"⟩, ⟨"Gone", "w"⟩] = [⟨"A_b", "z"⟩] := by decide
  have hz : r.identifierFor "z" = some "A_b" := by
    rw [identifierFor_eq_some_iff, he, hs]
    exact List.mem_cons_self
  refine ⟨r, hr, ?_, hz, (hinv _ _).1 hz⟩
  rw [he, hs, List.map_append, ha.discriminants_eq]
  decide

end Registry

end SchemaDecl
