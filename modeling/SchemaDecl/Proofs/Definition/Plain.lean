import SchemaDecl.Definition.Decode
import SchemaDecl.Proofs.Definition.Induction
import SchemaDecl.Proofs.Json.Reading

/-! Definitions whose examples are data as JSON holds it, at every depth. Decoding such data gives such
definitions: each part of a definition comes from the entry under its key. -/

namespace SchemaDecl

/-- The examples in a definition are data as JSON holds it. -/
inductive Definition.Plain : Definition → Prop
  | mk {d : Definition} (oneOf : ∀ bs, d.oneOf = some bs → ∀ b ∈ bs, Plain b)
      (items : ∀ x, d.items = some x → Plain x)
      (properties : ∀ p ∈ d.properties.getD [], Plain p.2)
      (sample : d.notes.sample.IsJson) : Plain d

theorem Definition.Plain.isJson_sample {d : Definition} (h : d.Plain) : d.notes.sample.IsJson := by
  cases h
  assumption

theorem Definition.Plain.property {d : Definition} (h : d.Plain) {p : String × Definition}
    (hp : p ∈ d.properties.getD []) : p.2.Plain := by
  cases h with
  | mk _ _ properties _ => exact properties p hp

/-- What lies in a plain definition is plain. -/
theorem Definition.Plain.within {c d : Definition} (hd : d.Plain) (h : c.Within d) : c.Plain := by
  induction h with
  | self => exact hd
  | branch h hb _ ih =>
    cases hd with
    | mk oneOf _ _ _ => exact ih (oneOf _ h _ hb)
  | items h _ ih =>
    cases hd with
    | mk _ items _ _ => exact ih (items _ h)
  | property h _ ih => exact ih (hd.property h)

namespace Check

variable {α β : Type}

theorem and_eq_ok {a : Check α} {b : Check β} {p : α × β} (h : a.and b = .ok p) :
    a = .ok p.1 ∧ b = .ok p.2 := by
  cases a <;> cases b <;> cases h
  exact ⟨rfl, rfl⟩

theorem within_eq_ok {step : Step} {c : Check α} {x : α} (h : c.within step = .ok x) : c = .ok x := by
  cases c with
  | error issues => cases h
  | ok y =>
    cases h
    rfl

theorem cons_eq_ok {a : Check α} {b : Check (List α)} {zs : List α} (h : cons a b = .ok zs) :
    ∃ x xs, a = .ok x ∧ b = .ok xs ∧ zs = x :: xs := by
  obtain ⟨p, hp, rfl⟩ := map_eq_ok h
  exact ⟨p.1, p.2, (and_eq_ok hp).1, (and_eq_ok hp).2, rfl⟩

end Check

namespace Definition

/-! ### Parts by their keys -/

theorem Slots.either_eq_ok {α : Type} {a b : String} {x y : Option (Check (Option α))} {z : α}
    (h : Slots.either a b x y = .ok (some z)) : x = some (.ok (some z)) ∨ y = some (.ok (some z)) := by
  unfold Slots.either at h
  split at h
  · exact Or.inl (congrArg some (Check.within_eq_ok h))
  · exact Or.inr (congrArg some (Check.within_eq_ok h))
  · cases h

theorem Slots.one_eq_ok {α : Type} {key : String} {x : Option (Check (Option α))} {z : α}
    (h : Slots.one key none x = .ok (some z)) : x = some (.ok (some z)) := by
  unfold Slots.one at h
  split at h
  · exact congrArg some (Check.within_eq_ok h)
  · cases h

/-- The parts of a definition that hold others or an example are what the keys say. -/
structure Slots.Describes (s : Slots) (d : Definition) : Prop where
  oneOf : Slots.either "oneOf" "one_of" s.oneOf s.oneOfName = .ok d.oneOf
  items : Slots.one "items" none s.items = .ok d.items
  properties : Slots.one "properties" none s.properties = .ok d.properties
  sample : s.sample.getD .null = d.notes.sample

theorem Slots.describes_of_assemble {s : Slots} {d : Definition} (h : s.assemble = .ok d) :
    s.Describes d := by
  obtain ⟨_, hc, rfl⟩ := map_eq_ok h
  obtain ⟨-, hc⟩ := Check.and_eq_ok hc
  obtain ⟨hOneOf, hc⟩ := Check.and_eq_ok hc
  obtain ⟨-, hc⟩ := Check.and_eq_ok hc
  obtain ⟨-, hc⟩ := Check.and_eq_ok hc
  obtain ⟨hItems, hc⟩ := Check.and_eq_ok hc
  obtain ⟨hProperties, -⟩ := Check.and_eq_ok hc
  exact ⟨hOneOf, hItems, hProperties, rfl⟩

/-- The parts that hold definitions or examples are plain as far as they are there. -/
structure Slots.Plain (s : Slots) : Prop where
  oneOf : ∀ bs, s.oneOf = some (.ok (some bs)) → ∀ b ∈ bs, b.Plain
  oneOfName : ∀ bs, s.oneOfName = some (.ok (some bs)) → ∀ b ∈ bs, b.Plain
  items : ∀ x, s.items = some (.ok (some x)) → x.Plain
  properties : ∀ ps, s.properties = some (.ok (some ps)) → ∀ p ∈ ps, p.2.Plain
  sample : ∀ v, s.sample = some v → v.IsJson

theorem Slots.Plain.assemble {s : Slots} (hs : s.Plain) {d : Definition} (h : s.assemble = .ok d) :
    d.Plain := by
  have hd := Slots.describes_of_assemble h
  refine .mk (fun bs hbs => ?_) (fun x hx => ?_) (fun p hp => ?_) ?_
  · rcases Slots.either_eq_ok (hbs ▸ hd.oneOf) with h | h
    · exact hs.oneOf bs h
    · exact hs.oneOfName bs h
  · exact hs.items x (Slots.one_eq_ok (hx ▸ hd.items))
  · cases hps : d.properties with
    | none =>
      rw [hps] at hp
      cases hp
    | some ps =>
      rw [hps] at hp
      exact hs.properties ps (Slots.one_eq_ok (hps ▸ hd.properties)) p hp
  · rw [← hd.sample]
    cases hv : s.sample with
    | none => exact .null
    | some v => exact hs.sample v hv

/-! ### Lists of definitions -/

theorem exists_of_decodeList {n : Nat} {vs : List Value} {ds : List Definition}
    (h : decodeList n vs = .ok ds) {d : Definition} (hd : d ∈ ds) : ∃ v ∈ vs, decode v = .ok d := by
  induction vs generalizing n ds with
  | nil =>
    rw [decodeList] at h
    cases h
    cases hd
  | cons v vs ih =>
    rw [decodeList] at h
    obtain ⟨x, xs, hx, hxs, rfl⟩ := Check.cons_eq_ok h
    rcases List.mem_cons.1 hd with rfl | hd
    · exact ⟨v, List.mem_cons_self, Check.within_eq_ok hx⟩
    · obtain ⟨w, hw, hwd⟩ := ih hxs hd
      exact ⟨w, List.mem_cons_of_mem _ hw, hwd⟩

theorem exists_of_decodeEntries {entries : List (Value × Value)} {ps : List (String × Definition)}
    (h : decodeEntries entries = .ok ps) {p : String × Definition} (hp : p ∈ ps) :
    ∃ e ∈ entries, decode e.2 = .ok p.2 := by
  induction entries generalizing ps with
  | nil =>
    rw [decodeEntries] at h
    cases h
    cases hp
  | cons e entries ih =>
    rw [decodeEntries] at h
    obtain ⟨x, xs, hx, hxs, rfl⟩ := Check.cons_eq_ok h
    rcases List.mem_cons.1 hp with rfl | hp
    · exact ⟨e, List.mem_cons_self, Check.within_eq_ok (Check.and_eq_ok hx).2⟩
    · obtain ⟨y, hy, hyp⟩ := ih hxs hp
      exact ⟨y, List.mem_cons_of_mem _ hy, hyp⟩

theorem mem_putProperty {p q : String × Definition} {ps : List (String × Definition)}
    (h : q ∈ putProperty p ps) : q = p ∨ q ∈ ps := by
  induction ps with
  | nil => exact Or.inl (List.mem_singleton.1 h)
  | cons x ps ih =>
    rw [putProperty] at h
    split at h
    · exact (List.mem_cons.1 h).imp_right (List.mem_cons_of_mem _)
    · rcases List.mem_cons.1 h with rfl | h
      · exact Or.inr List.mem_cons_self
      · exact (ih h).imp_right (List.mem_cons_of_mem _)

theorem mem_distinct {ps : List (String × Definition)} {q : String × Definition}
    (h : q ∈ distinct ps) : q ∈ ps := by
  have hall : ∀ m, q ∈ ps.foldl (fun m p => putProperty p m) m → q ∈ m ∨ q ∈ ps := by
    clear h
    induction ps with
    | nil => exact fun m hm => Or.inl hm
    | cons p ps ih =>
      intro m hm
      rcases ih _ hm with h | h
      · rcases mem_putProperty h with rfl | h
        · exact Or.inr List.mem_cons_self
        · exact Or.inl h
      · exact Or.inr (List.mem_cons_of_mem _ h)
  simpa using hall [] h

/-! ### Decoding -/

/-- What is decoded from a value is plain, whether this is one definition or several. -/
structure Yields (v : Value) : Prop where
  isJson : v.IsJson
  decode : ∀ d, decode v = .ok d → d.Plain
  branches : ∀ bs, decodeBranches v = .ok (some bs) → ∀ b ∈ bs, b.Plain
  properties : ∀ ps, decodeProperties v = .ok (some ps) → ∀ p ∈ ps, p.2.Plain

theorem Yields.item {v : Value} (h : Yields v) {x : Definition} (hx : decodeItem v = .ok (some x)) :
    x.Plain := by
  rw [decodeItem_eq] at hx
  unfold Check.optional at hx
  split at hx
  · cases hx
  · obtain ⟨x', hd, hx'⟩ := map_eq_ok hx
    cases hx'
    exact h.decode x hd

theorem plain_decodeSlots {entries : List (Value × Value)} (h : ∀ e ∈ entries, Yields e.2) :
    (decodeSlots entries).Plain := by
  induction entries with
  | nil => exact ⟨nofun, nofun, nofun, nofun, nofun⟩
  | cons e rest ih =>
    obtain ⟨k, v⟩ := e
    obtain ⟨hv, hrest⟩ := List.forall_mem_cons.1 h
    have hs := ih hrest
    rw [decodeSlots.eq_def]
    dsimp only
    split
    next => exact { hs with }
    next => exact { hs with }
    next => exact { hs with oneOf := fun bs hb => hv.branches bs (Option.some.inj hb) }
    next => exact { hs with oneOfName := fun bs hb => hv.branches bs (Option.some.inj hb) }
    next => exact { hs with }
    next => exact { hs with }
    next => exact { hs with items := fun x hx => hv.item (Option.some.inj hx) }
    next => exact { hs with properties := fun ps hp => hv.properties ps (Option.some.inj hp) }
    next => exact { hs with }
    next => exact { hs with }
    next => exact { hs with sample := fun w hw => Option.some.inj hw ▸ hv.isJson }
    next => exact { hs with }
    next => exact { hs with }
    next => exact hs

theorem yields_of_isJson {v : Value} (h : v.IsJson) : Yields v := by
  induction h with
  | null => exact ⟨.null, nofun, nofun, nofun⟩
  | bool b => exact ⟨.bool b, nofun, nofun, nofun⟩
  | int h => exact ⟨.int h, nofun, nofun, nofun⟩
  | float x => exact ⟨.float x, nofun, nofun, nofun⟩
  | text s => exact ⟨.text s, nofun, nofun, nofun⟩
  | list hv ih =>
    refine ⟨.list hv, nofun, fun bs hbs b hb => ?_, nofun⟩
    rw [decodeBranches] at hbs
    obtain ⟨_, hds, hsome⟩ := map_eq_ok hbs
    cases hsome
    obtain ⟨v, hm, hd⟩ := exists_of_decodeList hds hb
    exact (ih v hm).decode b hd
  | map hk hn hv ih =>
    refine ⟨.map hk hn hv, fun d hd => ?_, nofun, fun ps hps p hp => ?_⟩
    · rw [decode] at hd
      exact (plain_decodeSlots ih).assemble hd
    · rw [decodeProperties] at hps
      obtain ⟨all, hall, hsome⟩ := map_eq_ok hps
      cases hsome
      obtain ⟨e, hm, hd⟩ := exists_of_decodeEntries hall (mem_distinct hp)
      exact (ih e hm).decode p.2 hd

theorem plain_decode {v : Value} (h : v.IsJson) {d : Definition} (hd : decode v = .ok d) : d.Plain :=
  (yields_of_isJson h).decode d hd

end Definition

end SchemaDecl
