import Mathlib.Data.List.Forall2
import Mathlib.Data.List.Nodup
import SchemaDecl.Proofs.Json.RoundTrip
import SchemaDecl.Proofs.Registry.Build
import SchemaDecl.Registry.Lock

/-! The record of a registry gives back its entries, and a record is accepted exactly when its items
describe entries of which no column repeats anything. What stands against any other value is its first
flaw. So what was accepted makes a registry, and a document can be built on it. -/

namespace SchemaDecl.Registry

/-! ### Records -/

/-- An item of a record describes an entry by its two fields. -/
def Describes (item : Value) (e : Entry) : Prop :=
  item.field? "identifier" = some (.text e.identifier) ∧
    item.field? "discriminant" = some (.text e.discriminant)

/-- A list whose items describe entries in order, where no identifier and no discriminant repeats. -/
structure Records (items : List Value) (es : List Entry) : Prop where
  describes : List.Forall₂ Describes items es
  identifiers_nodup : (es.map Entry.identifier).Nodup
  discriminants_nodup : (es.map Entry.discriminant).Nodup

/-- An entry has a column in common with one of a list. -/
def Repeats (es : List Entry) (e : Entry) : Prop :=
  e.identifier ∈ es.map Entry.identifier ∨ e.discriminant ∈ es.map Entry.discriminant

/-- The first flaw of a value that is no record. -/
inductive Flaw : Value → ConfigError → Prop
  | notList {v : Value} (h : ∀ items, v ≠ .list items) : Flaw v .lockNotList
  | malformed {front back : List Value} {item : Value} {es : List Entry} (hf : Records front es)
      (hi : ∀ e, ¬Describes item e) : Flaw (.list (front ++ item :: back)) (.malformedEntry item)
  | repeated {front back : List Value} {item : Value} {es : List Entry} {e : Entry}
      (hf : Records front es) (hi : Describes item e) (hr : Repeats es e) :
      Flaw (.list (front ++ item :: back)) (.repeatedEntry item)

theorem entryOf?_eq_some_iff {item : Value} {e : Entry} :
    entryOf? item = some e ↔ Describes item e := by
  unfold entryOf? Describes
  split
  next i d hi hd =>
    rw [hi, hd]
    constructor
    · rintro ⟨⟩
      exact ⟨rfl, rfl⟩
    · rintro ⟨⟨⟩, ⟨⟩⟩
      rfl
  next h =>
    constructor
    · rintro ⟨⟩
    · rintro ⟨hi, hd⟩
      exact absurd hd (h _ _ hi)

theorem records_nil : Records [] [] :=
  ⟨.nil, .nil, .nil⟩

theorem nodup_map_concat {es : List Entry} {e : Entry} {column : Entry → String}
    (h : (es.map column).Nodup) (he : column e ∉ es.map column) : ((es ++ [e]).map column).Nodup := by
  rw [List.map_append, List.map_singleton, ← List.concat_eq_append]
  exact List.Nodup.concat he h

/-- A record goes on with an item that describes an entry and repeats nothing. -/
theorem Records.concat {front : List Value} {item : Value} {es : List Entry} {e : Entry}
    (h : Records front es) (hi : Describes item e) (hr : ¬Repeats es e) :
    Records (front ++ [item]) (es ++ [e]) := by
  rw [Repeats, not_or] at hr
  exact ⟨List.rel_append h.describes (.cons hi .nil), nodup_map_concat h.identifiers_nodup hr.1,
    nodup_map_concat h.discriminants_nodup hr.2⟩

/-! ### What is accepted -/

theorem repeats_iff {seen : List Entry} {e : Entry} :
    ((seen.map Entry.identifier).contains e.identifier ||
      (seen.map Entry.discriminant).contains e.discriminant) = true ↔ Repeats seen e := by
  rw [Bool.or_eq_true, List.contains_iff_mem, List.contains_iff_mem, Repeats]

theorem repeats_reverse {es : List Entry} {e : Entry} : Repeats es.reverse e ↔ Repeats es e := by
  simp [Repeats]

theorem lockEntries_cons {seen : List Entry} {item : Value} {e : Entry} {rest : List Value}
    (hi : Describes item e) (hr : ¬Repeats seen e) :
    lockEntries seen (item :: rest) = (lockEntries (e :: seen) rest).map fun es => e :: es := by
  rw [lockEntries, entryOf?_eq_some_iff.2 hi]
  dsimp only
  rw [if_neg (by rwa [repeats_iff])]

theorem not_repeats_of_nodup {seen es : List Entry} {e : Entry}
    (hi : ((es.reverse ++ e :: seen).map Entry.identifier).Nodup)
    (hd : ((es.reverse ++ e :: seen).map Entry.discriminant).Nodup) : ¬Repeats seen e := by
  rw [List.map_append, List.map_cons, List.nodup_append] at hi hd
  rw [Repeats, not_or]
  exact ⟨(List.nodup_cons.1 hi.2.1).1, (List.nodup_cons.1 hd.2.1).1⟩

/-- Behind items that describe entries the rest is read against these entries. -/
theorem lockEntries_append {front rest : List Value} {es seen : List Entry}
    (h : List.Forall₂ Describes front es) (hi : ((es.reverse ++ seen).map Entry.identifier).Nodup)
    (hd : ((es.reverse ++ seen).map Entry.discriminant).Nodup) :
    lockEntries seen (front ++ rest) =
      (lockEntries (es.reverse ++ seen) rest).map fun found => es ++ found := by
  induction h generalizing seen with
  | nil =>
    rw [List.nil_append, List.reverse_nil, List.nil_append]
    cases lockEntries seen rest <;> rfl
  | @cons item e front es hitem _ ih =>
    rw [List.reverse_cons, List.append_assoc, List.singleton_append] at hi hd ⊢
    rw [List.cons_append, lockEntries_cons hitem (not_repeats_of_nodup hi hd), ih hi hd]
    cases lockEntries (es.reverse ++ e :: seen) rest <;> rfl

theorem Records.lockEntries_append {front : List Value} {es : List Entry} (h : Records front es)
    (rest : List Value) :
    lockEntries [] (front ++ rest) = (lockEntries es.reverse rest).map fun found => es ++ found := by
  have hi : ((es.reverse ++ []).map Entry.identifier).Nodup := by
    rw [List.append_nil, List.map_reverse, List.nodup_reverse]
    exact h.identifiers_nodup
  have hd : ((es.reverse ++ []).map Entry.discriminant).Nodup := by
    rw [List.append_nil, List.map_reverse, List.nodup_reverse]
    exact h.discriminants_nodup
  simpa using Registry.lockEntries_append h.describes hi hd

/-- Items behind those of a record either go on with it or have its first flaw among them. -/
theorem exists_records_or_flaw {front : List Value} {es : List Entry} (h : Records front es)
    (rest : List Value) :
    (∃ found, Records (front ++ rest) (es ++ found)) ∨ ∃ f, Flaw (.list (front ++ rest)) f := by
  induction rest generalizing front es with
  | nil => exact Or.inl ⟨[], by simpa using h⟩
  | cons item rest ih =>
    by_cases hi : ∃ e, Describes item e
    · obtain ⟨e, he⟩ := hi
      by_cases hr : Repeats es e
      · exact Or.inr ⟨_, .repeated h he hr⟩
      · have hnext := ih (h.concat he hr)
        rw [List.append_assoc, List.singleton_append] at hnext
        refine hnext.imp_left fun ⟨found, hf⟩ => ⟨e :: found, ?_⟩
        rwa [List.append_assoc, List.singleton_append] at hf
    · exact Or.inr ⟨_, .malformed h fun e he => hi ⟨e, he⟩⟩

theorem Records.ofLock {items : List Value} {es : List Entry} (h : Records items es) :
    ofLock (.list items) = .ok es := by
  have happend := h.lockEntries_append []
  rw [List.append_nil, lockEntries, Except.map, List.append_nil] at happend
  exact happend

theorem Flaw.ofLock {v : Value} {f : ConfigError} (h : Flaw v f) : ofLock v = .error f := by
  cases h with
  | notList h =>
    cases v with
    | list items => exact absurd rfl (h items)
    | _ => rfl
  | @malformed front back item es hf hi =>
    have hnone : entryOf? item = none := by
      rw [Option.eq_none_iff_forall_ne_some]
      exact fun e he => hi e (entryOf?_eq_some_iff.1 he)
    rw [Registry.ofLock, hf.lockEntries_append, lockEntries, hnone]
    rfl
  | @repeated front back item es e hf hi hr =>
    rw [Registry.ofLock, hf.lockEntries_append, lockEntries, entryOf?_eq_some_iff.2 hi]
    dsimp only
    rw [if_pos (repeats_iff.2 (repeats_reverse.2 hr))]
    rfl

/-- Every value is a record or has a first flaw. -/
theorem records_or_flaw (v : Value) :
    (∃ items es, v = .list items ∧ Records items es) ∨ ∃ f, Flaw v f := by
  by_cases hv : ∃ items, v = .list items
  · obtain ⟨items, rfl⟩ := hv
    rcases exists_records_or_flaw records_nil items with ⟨es, h⟩ | h
    · exact Or.inl ⟨items, es, rfl, h⟩
    · exact Or.inr h
  · exact Or.inr ⟨_, .notList fun items hi => hv ⟨items, hi⟩⟩

theorem ofLock_eq_ok_iff {v : Value} {es : List Entry} :
    ofLock v = .ok es ↔ ∃ items, v = .list items ∧ Records items es := by
  constructor
  · intro h
    rcases records_or_flaw v with ⟨items, found, rfl, hr⟩ | ⟨f, hf⟩
    · rw [hr.ofLock] at h
      cases h
      exact ⟨items, rfl, hr⟩
    · rw [hf.ofLock] at h
      cases h
  · rintro ⟨items, rfl, h⟩
    exact h.ofLock

theorem ofLock_eq_error_iff {v : Value} {f : ConfigError} : ofLock v = .error f ↔ Flaw v f := by
  constructor
  · intro h
    rcases records_or_flaw v with ⟨items, found, rfl, hr⟩ | ⟨f', hf⟩
    · rw [hr.ofLock] at h
      cases h
    · rw [hf.ofLock] at h
      cases h
      exact hf
  · exact Flaw.ofLock

/-! ### The record of a registry -/

theorem records_entries (r : Registry) : ∃ items, r.toLock = .list items ∧ Records items r.entries := by
  refine ⟨_, rfl, ?_, r.identifiers_nodup, r.discriminants_nodup⟩
  have hall : ∀ es : List Entry, List.Forall₂ Describes (es.map fun e =>
      Value.object [("identifier", .text e.identifier), ("discriminant", .text e.discriminant)]) es := by
    intro es
    induction es with
    | nil => exact .nil
    | cons e es ih => exact .cons ⟨rfl, rfl⟩ ih
  exact hall r.entries

/-- The record of a registry gives back its entries, which make the registry again. -/
theorem ofLock_toLock (r : Registry) : ofLock r.toLock = .ok r.entries ∧ ofEntries r.entries = .ok r :=
  ⟨ofLock_eq_ok_iff.2 r.records_entries, ofEntries_of_nodup r.identifiers_nodup r.discriminants_nodup⟩

theorem ofTexts_toLock (r : Registry) : r.toLock.OfTexts := by
  refine .list fun v hv => ?_
  obtain ⟨e, -, rfl⟩ := List.mem_map.1 hv
  refine .object (by simp) fun f hf => ?_
  simp only [List.mem_cons, List.not_mem_nil, or_false] at hf
  rcases hf with rfl | rfl
  · exact .text _
  · exact .text _

/-- There is a text of the record. -/
theorem exists_lockText (r : Registry) : ∃ t, r.lockText = .ok t := by
  obtain ⟨t, ht, -⟩ := Json.exists_writeAt_spells Json.legible_record r.ofTexts_toLock 0
  exact ⟨t ++ "\n", by rw [lockText, Json.write, ht]; rfl⟩

/-- The text of the record is read as the record, also from a file whose line ends are made one. -/
theorem read_lockText {r : Registry} {t : String} (h : r.lockText = .ok t) :
    Json.read t = .ok r.toLock ∧ Text.unifyNewlines t = t := by
  obtain ⟨s, hs, rfl⟩ := map_eq_ok h
  have hgap : Json.Gap "\n".toList := by simp [Json.Gap]
  obtain ⟨hread, hreturn⟩ := Json.read_of_write Json.legible_record r.ofTexts_toLock hs hgap
  exact ⟨hread, Text.unifyNewlines_eq_self hreturn⟩

end SchemaDecl.Registry
