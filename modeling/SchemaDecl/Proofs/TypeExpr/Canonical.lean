import Mathlib.Data.Set.Function
import SchemaDecl.Proofs.Synthesis.Leaves

/-! A normal form of type expressions. Unions inside unions are taken apart, of alternatives that are
the same only the first one stays, and a single alternative stands for itself; a set of texts is the
union of its texts, and documentation is dropped. Renaming commutes with it as long as it tells the
names of the expression apart. -/

namespace SchemaDecl

/-! ### First occurrences under maps -/

section FirstSeen

variable {α β : Type} [BEq α] [LawfulBEq α] [BEq β] [LawfulBEq β]

theorem firstSeen_filter (p : α → Bool) (xs : List α) :
    firstSeen (xs.filter p) = (firstSeen xs).filter p := by
  induction xs with
  | nil => rfl
  | cons x xs ih =>
    rw [firstSeen_cons, List.filter_cons]
    cases hp : p x with
    | true =>
      rw [if_pos rfl, firstSeen_cons, ih, List.filter_cons_of_pos hp, List.filter_filter,
        List.filter_filter]
      simp only [Bool.and_comm]
    | false =>
      rw [if_neg (by simp), ih, List.filter_cons_of_neg (by simp [hp]), List.filter_filter]
      refine List.filter_congr fun y _ => ?_
      by_cases hy : y = x
      · simp [hy, hp]
      · simp [hy]

/-- Elements that come twice add nothing to what is made of them. -/
theorem firstSeen_flatMap_firstSeen (f : α → List β) (xs : List α) :
    firstSeen ((firstSeen xs).flatMap f) = firstSeen (xs.flatMap f) := by
  induction xs with
  | nil => rfl
  | cons x xs ih =>
    have hdrop : ∀ ys : List α, ((ys.filter fun y => !(y == x)).flatMap f).filter
        (fun z => !(f x).contains z) = (ys.flatMap f).filter fun z => !(f x).contains z := by
      intro ys
      induction ys with
      | nil => rfl
      | cons y ys ihy =>
        by_cases hy : y = x
        · subst hy
          have hself : (f y).filter (fun z => !(f y).contains z) = [] :=
            List.filter_eq_nil_iff.2 fun z hz => by simp [hz]
          rw [List.filter_cons_of_neg (by simp), ihy, List.flatMap_cons, List.filter_append, hself,
            List.nil_append]
        · rw [List.filter_cons_of_pos (by simp [hy]), List.flatMap_cons, List.flatMap_cons,
            List.filter_append, List.filter_append, ihy]
    rw [firstSeen_cons, List.flatMap_cons, List.flatMap_cons, firstSeen_append, firstSeen_append,
      ← firstSeen_filter (fun z => !(f x).contains z), hdrop, firstSeen_filter, ih]

/-- A map that tells elements apart keeps which of them are first. -/
theorem firstSeen_map {f : α → β} {xs : List α}
    (hf : ∀ x ∈ xs, ∀ y ∈ xs, f x = f y → x = y) : firstSeen (xs.map f) = (firstSeen xs).map f := by
  induction xs with
  | nil => rfl
  | cons x xs ih =>
    rw [List.map_cons, firstSeen_cons, firstSeen_cons, List.map_cons,
      ih fun a ha b hb => hf a (List.mem_cons_of_mem _ ha) b (List.mem_cons_of_mem _ hb),
      List.filter_map]
    congr 2
    refine List.filter_congr fun y hy => ?_
    have hxy := hf y (List.mem_cons_of_mem _ (mem_firstSeen.1 hy)) x List.mem_cons_self
    by_cases h : y = x
    · simp [h]
    · simp [h, mt hxy h]

end FirstSeen

namespace TypeExpr

/-! ### Induction and equality -/

/-- What holds of a type expression as soon as it holds of those in it holds of all. -/
@[elab_as_elim]
theorem induct {P : TypeExpr → Prop} (reference : ∀ n m, P (.reference n m))
    (union : ∀ ms, (∀ t ∈ ms, P t) → P (.union ms)) (sequence : ∀ t, P t → P (.sequence t))
    (record : ∀ fs, (∀ f ∈ fs, P f.type) → P (.record fs)) (literals : ∀ vs, P (.literals vs))
    (primitive : ∀ p, P (.primitive p)) : ∀ t, P t
  | .reference n m => reference n m
  | .union ms => union ms fun t ht =>
    have := List.sizeOf_lt_of_mem ht
    induct reference union sequence record literals primitive t
  | .sequence t => sequence t (induct reference union sequence record literals primitive t)
  | .record fs => record fs fun f hf =>
    have : sizeOf f.type < sizeOf fs := by
      have := List.sizeOf_lt_of_mem hf
      cases f
      simp only [Field.mk.sizeOf_spec, Field.type] at *
      omega
    induct reference union sequence record literals primitive f.type
  | .literals vs => literals vs
  | .primitive p => primitive p
termination_by t => sizeOf t

theorem beqMembers_iff {ms : List TypeExpr} (h : ∀ t ∈ ms, ∀ t', beq t t' = true ↔ t = t')
    (ms' : List TypeExpr) : beqMembers ms ms' = true ↔ ms = ms' := by
  induction ms generalizing ms' with
  | nil => cases ms' <;> simp [beqMembers]
  | cons t ms ih =>
    obtain ⟨ht, hms⟩ := List.forall_mem_cons.1 h
    cases ms' with
    | nil => simp [beqMembers]
    | cons t' ms' => rw [beqMembers, Bool.and_eq_true, ht, ih hms, List.cons.injEq]

theorem beqFields_iff {fs : List Field} (h : ∀ f ∈ fs, ∀ t', beq f.type t' = true ↔ f.type = t')
    (fs' : List Field) : beqFields fs fs' = true ↔ fs = fs' := by
  induction fs generalizing fs' with
  | nil => cases fs' <;> simp [beqFields]
  | cons f fs ih =>
    obtain ⟨hf, hfs⟩ := List.forall_mem_cons.1 h
    obtain ⟨n, t, r, d⟩ := f
    cases fs' with
    | nil => simp [beqFields]
    | cons f' fs' =>
      obtain ⟨n', t', r', d'⟩ := f'
      have ht : beq t t' = true ↔ t = t' := hf t'
      rw [beqFields, List.cons.injEq, Field.mk.injEq]
      simp only [Bool.and_eq_true, beq_iff_eq, ht, ih hfs, and_assoc]

theorem beq_iff (t : TypeExpr) : ∀ t', beq t t' = true ↔ t = t' := by
  induction t using induct with
  | reference n m => rintro (_ | _ | _ | _ | _ | _) <;> simp [beq]
  | union ms ih =>
    rintro (_ | ms' | _ | _ | _ | _) <;> simp only [beq, reduceCtorEq, Bool.false_eq_true]
    rw [beqMembers_iff ih, union.injEq]
  | sequence t ih =>
    rintro (_ | _ | t' | _ | _ | _) <;> simp only [beq, reduceCtorEq, Bool.false_eq_true]
    rw [ih, sequence.injEq]
  | record fs ih =>
    rintro (_ | _ | _ | fs' | _ | _) <;> simp only [beq, reduceCtorEq, Bool.false_eq_true]
    rw [beqFields_iff ih, record.injEq]
  | literals vs => rintro (_ | _ | _ | _ | _ | _) <;> simp [beq]
  | primitive p => rintro (_ | _ | _ | _ | _ | _) <;> simp [beq]

instance : LawfulBEq TypeExpr where
  eq_of_beq h := (beq_iff _ _).1 h
  rfl := (beq_iff _ _).2 rfl

instance : DecidableEq TypeExpr := fun a b => decidable_of_iff (beq a b = true) (beq_iff a b)

/-! ### The normal form -/

/-- The union of some alternatives, one alone for itself. -/
def unionOf : List TypeExpr → TypeExpr
  | [t] => t
  | ts => .union ts

mutual

/-- The alternatives of a type in normal form, in their order and as often as they come. -/
def alternatives : TypeExpr → List TypeExpr
  | .reference n m => [.reference n m]
  | .union ms => memberAlternatives ms
  | .sequence t => [.sequence (unionOf (firstSeen t.alternatives))]
  | .record fs => [.record (normalFields fs)]
  | .literals vs => vs.map fun v => .literals [v]
  | .primitive p => [.primitive p]

def memberAlternatives : List TypeExpr → List TypeExpr
  | [] => []
  | t :: rest => t.alternatives ++ memberAlternatives rest

def normalFields : List Field → List Field
  | [] => []
  | .mk n t r _ :: rest => .mk n (unionOf (firstSeen t.alternatives)) r {} :: normalFields rest

end

/-- The type in normal form. -/
def canonical (t : TypeExpr) : TypeExpr :=
  unionOf (firstSeen t.alternatives)

/-- A field with its type in normal form. -/
def normalField (f : Field) : Field :=
  .mk f.name f.type.canonical f.required {}

theorem memberAlternatives_eq (ms : List TypeExpr) :
    memberAlternatives ms = ms.flatMap alternatives := by
  induction ms with
  | nil => rfl
  | cons t ms ih => rw [memberAlternatives, ih, List.flatMap_cons]

theorem normalFields_eq (fs : List Field) : normalFields fs = fs.map normalField := by
  induction fs with
  | nil => rfl
  | cons f fs ih =>
    obtain ⟨n, t, r, d⟩ := f
    rw [normalFields, ih, List.map_cons]
    rfl

theorem alternatives_union (ms : List TypeExpr) :
    (union ms).alternatives = ms.flatMap alternatives := by
  rw [alternatives, memberAlternatives_eq]

theorem alternatives_sequence (t : TypeExpr) :
    (sequence t).alternatives = [.sequence t.canonical] := by
  rw [alternatives, canonical]

theorem alternatives_record (fs : List Field) :
    (record fs).alternatives = [.record (fs.map normalField)] := by
  rw [alternatives, normalFields_eq]

theorem alternatives_unionOf (ts : List TypeExpr) :
    (unionOf ts).alternatives = ts.flatMap alternatives := by
  match ts with
  | [t] => simp [unionOf]
  | [] => rfl
  | t :: u :: ts => exact alternatives_union _

example : canonical (.union [.union [.primitive .string], .literals ["a"], .primitive .string]) =
    .union [.primitive .string, .literals ["a"]] := by decide

/-! ### Names -/

/-- Only names with a property occur in the type. -/
def Over (N : String → Prop) (t : TypeExpr) : Prop :=
  ∀ n ∈ t.references, N n

section Over

variable {N : String → Prop}

theorem over_reference {n : String} {m : Option String} : Over N (.reference n m) ↔ N n := by
  simp [Over, references, links]

theorem over_union {ms : List TypeExpr} : Over N (.union ms) ↔ ∀ t ∈ ms, Over N t := by
  simp only [Over, references, links, memberLinks_eq_flatten, List.mem_map, List.mem_flatten]
  constructor
  · rintro h t ht n ⟨l, hl, rfl⟩
    exact h _ ⟨l, ⟨_, ⟨t, ht, rfl⟩, hl⟩, rfl⟩
  · rintro h n ⟨l, ⟨_, ⟨t, ht, rfl⟩, hl⟩, rfl⟩
    exact h t ht _ ⟨l, hl, rfl⟩

theorem over_sequence {t : TypeExpr} : Over N (.sequence t) ↔ Over N t := Iff.rfl

theorem over_record {fs : List Field} : Over N (.record fs) ↔ ∀ f ∈ fs, Over N f.type := by
  simp only [Over, references, links, fieldLinks_eq_flatten, List.mem_map, List.mem_flatten]
  constructor
  · rintro h f hf n ⟨l, hl, rfl⟩
    exact h _ ⟨l, ⟨_, ⟨f, hf, rfl⟩, hl⟩, rfl⟩
  · rintro h n ⟨l, ⟨_, ⟨f, hf, rfl⟩, hl⟩, rfl⟩
    exact h f hf _ ⟨l, hl, rfl⟩

theorem over_literals (vs : List String) : Over N (.literals vs) := by
  simp [Over, references, links]

theorem over_unionOf {ts : List TypeExpr} (h : ∀ t ∈ ts, Over N t) : Over N (unionOf ts) := by
  match ts with
  | [t] => exact h t List.mem_cons_self
  | [] => exact over_union.2 h
  | t :: u :: ts => exact over_union.2 h

/-- The normal form brings in no names. -/
theorem over_of_mem_alternatives {t : TypeExpr} (h : Over N t) :
    ∀ a ∈ t.alternatives, Over N a := by
  induction t using induct with
  | reference n m =>
    rw [alternatives, List.forall_mem_singleton]
    exact h
  | union ms ih =>
    intro a ha
    rw [alternatives_union, List.mem_flatMap] at ha
    obtain ⟨t, ht, ha⟩ := ha
    exact ih t ht (over_union.1 h t ht) a ha
  | sequence t ih =>
    rw [alternatives_sequence, List.forall_mem_singleton, over_sequence]
    exact over_unionOf fun a ha => ih h a (mem_firstSeen.1 ha)
  | record fs ih =>
    rw [alternatives_record, List.forall_mem_singleton, over_record]
    intro f hf
    obtain ⟨g, hg, rfl⟩ := List.mem_map.1 hf
    exact over_unionOf fun a ha => ih g hg (over_record.1 h g hg) a (mem_firstSeen.1 ha)
  | literals vs =>
    intro a ha
    rw [alternatives, List.mem_map] at ha
    obtain ⟨v, -, rfl⟩ := ha
    exact over_literals [v]
  | primitive p =>
    rw [alternatives, List.forall_mem_singleton]
    exact h

theorem over_canonical {t : TypeExpr} (h : Over N t) : Over N t.canonical :=
  over_unionOf fun a ha => over_of_mem_alternatives h a (mem_firstSeen.1 ha)

end Over

/-! ### Renaming -/

mutual

/-- The type with other names. -/
def renamed (f : String → String) : TypeExpr → TypeExpr
  | .reference n m => .reference (f n) m
  | .union ms => .union (membersRenamed f ms)
  | .sequence t => .sequence (t.renamed f)
  | .record fs => .record (fieldsRenamed f fs)
  | .literals vs => .literals vs
  | .primitive p => .primitive p

def membersRenamed (f : String → String) : List TypeExpr → List TypeExpr
  | [] => []
  | t :: rest => t.renamed f :: membersRenamed f rest

def fieldsRenamed (f : String → String) : List Field → List Field
  | [] => []
  | .mk n t r d :: rest => .mk n (t.renamed f) r d :: fieldsRenamed f rest

end

section Renamed

variable {f g : String → String}

/-- A field with its type renamed. -/
def renamedField (f : String → String) (x : Field) : Field :=
  .mk x.name (x.type.renamed f) x.required x.doc

theorem membersRenamed_eq (ms : List TypeExpr) : membersRenamed f ms = ms.map (renamed f) := by
  induction ms with
  | nil => rfl
  | cons t ms ih => rw [membersRenamed, ih, List.map_cons]

theorem fieldsRenamed_eq (fs : List Field) : fieldsRenamed f fs = fs.map (renamedField f) := by
  induction fs with
  | nil => rfl
  | cons x fs ih =>
    obtain ⟨n, t, r, d⟩ := x
    rw [fieldsRenamed, ih, List.map_cons]
    rfl

theorem renamed_union (ms : List TypeExpr) :
    (union ms).renamed f = .union (ms.map (renamed f)) := by
  rw [renamed, membersRenamed_eq]

theorem renamed_record (fs : List Field) :
    (record fs).renamed f = .record (fs.map (renamedField f)) := by
  rw [renamed, fieldsRenamed_eq]

theorem renamed_unionOf (ts : List TypeExpr) :
    (unionOf ts).renamed f = unionOf (ts.map (renamed f)) := by
  match ts with
  | [t] => rfl
  | [] => rfl
  | t :: u :: ts => exact renamed_union _

/-- Names that a second renaming gives back. -/
theorem renamed_renamed {N : String → Prop} (hg : ∀ n, N n → g (f n) = n) {t : TypeExpr}
    (ht : Over N t) : (t.renamed f).renamed g = t := by
  induction t using induct with
  | reference n m => rw [renamed, renamed, hg n (over_reference.1 ht)]
  | union ms ih =>
    rw [renamed_union, renamed_union, List.map_map, union.injEq]
    exact (List.map_congr_left fun t h => ih t h (over_union.1 ht t h)).trans (List.map_id _)
  | sequence t ih => rw [renamed, renamed, ih ht]
  | record fs ih =>
    rw [renamed_record, renamed_record, List.map_map, record.injEq]
    refine (List.map_congr_left fun x hx => ?_).trans (List.map_id _)
    have hx' := ih x hx (over_record.1 ht x hx)
    obtain ⟨n, t, r, d⟩ := x
    exact congrArg (fun t => Field.mk n t r d) hx'
  | literals vs => rfl
  | primitive p => rfl

/-- A renaming that tells names apart tells the types over them apart. -/
theorem renamed_inj {N : String → Prop} (hf : ∀ a b, N a → N b → f a = f b → a = b) {t u : TypeExpr}
    (ht : Over N t) (hu : Over N u) (h : t.renamed f = u.renamed f) : t = u := by
  have hinv : ∀ n, N n → Function.invFunOn f {n | N n} (f n) = n := fun n hn =>
    hf _ _ (Function.invFunOn_mem (s := {n | N n}) ⟨n, hn, rfl⟩) hn
      (Function.invFunOn_eq (s := {n | N n}) ⟨n, hn, rfl⟩)
  rw [← renamed_renamed hinv ht, h, renamed_renamed hinv hu]

end Renamed

/-! ### Types by their texts -/

/-- Texts one by one are the alternatives of all of them. -/
theorem alternatives_literals (f : String → String) (vs : List String) :
    firstSeen ((vs.map fun v => literals [v]).flatMap alternatives) =
      (firstSeen (literals vs).alternatives).map (renamed f) := by
  have hsame : (vs.map fun v => literals [v]).flatMap alternatives = vs.map fun v => .literals [v] := by
    rw [List.flatMap_map]
    exact List.flatMap_pure_eq_map _ _
  have hself : ∀ a ∈ firstSeen (vs.map fun v => literals [v]), a.renamed f = a := by
    intro a ha
    obtain ⟨v, -, rfl⟩ := List.mem_map.1 (mem_firstSeen.1 ha)
    rfl
  rw [hsame, alternatives, List.map_congr_left hself, List.map_id']

/-- What is read in the texts of some things has the alternatives of the things, by other names. Things
with one text have the same, so one text for each is enough. -/
theorem alternatives_firstSeen_texts {α : Type} {f : String → String} {xs : List α} {text : α → String}
    {read : String → List TypeExpr} {values : α → List TypeExpr}
    (hf : ∀ a ∈ xs.flatMap values, ∀ b ∈ xs.flatMap values, a.renamed f = b.renamed f → a = b)
    (h : ∀ x ∈ xs, firstSeen ((read (text x)).flatMap alternatives) =
      (firstSeen (values x)).map (renamed f)) :
    firstSeen (((firstSeen (xs.map text)).flatMap read).flatMap alternatives) =
      (firstSeen (xs.flatMap values)).map (renamed f) := by
  have hstaged : ∀ g : α → List TypeExpr,
      firstSeen (xs.flatMap fun x => firstSeen (g x)) = firstSeen (xs.flatMap g) := by
    intro g
    have hflat := firstSeen_flatten_map_firstSeen (xs.map g)
    rwa [List.map_map] at hflat
  have hinj : ∀ a ∈ xs.flatMap fun x => firstSeen (values x),
      ∀ b ∈ xs.flatMap fun x => firstSeen (values x), a.renamed f = b.renamed f → a = b := by
    have hmem : ∀ a ∈ xs.flatMap fun x => firstSeen (values x), a ∈ xs.flatMap values := by
      intro a ha
      obtain ⟨x, hx, ha⟩ := List.mem_flatMap.1 ha
      exact List.mem_flatMap.2 ⟨x, hx, mem_firstSeen.1 ha⟩
    exact fun a ha b hb => hf a (hmem a ha) b (hmem b hb)
  calc firstSeen (((firstSeen (xs.map text)).flatMap read).flatMap alternatives)
      = firstSeen ((xs.map text).flatMap fun s => (read s).flatMap alternatives) := by
        rw [List.flatMap_assoc, firstSeen_flatMap_firstSeen]
    _ = firstSeen (xs.flatMap fun x => firstSeen ((read (text x)).flatMap alternatives)) := by
        rw [hstaged, List.flatMap_map]
    _ = firstSeen ((xs.flatMap fun x => firstSeen (values x)).map (renamed f)) := by
        rw [List.map_flatMap]
        exact congrArg firstSeen (congrArg List.flatten (List.map_congr_left h))
    _ = (firstSeen (xs.flatMap values)).map (renamed f) := by
        rw [firstSeen_map hinj, hstaged]

/-- Where the types of fields are read as themselves by other names, so are the fields. -/
theorem exists_fields_read {f : String → String} {R : String → List TypeExpr → Prop}
    {text : TypeExpr → String} {fs : List Field}
    (h : ∀ x ∈ fs, ∃ alts, R (text x.type) alts ∧
      (unionOf alts).canonical = x.type.canonical.renamed f) :
    ∃ fs', List.Forall₂ (fun x y => ∃ alts, R (text x.type) alts ∧
        y = .mk x.name (unionOf alts) x.required {}) fs fs' ∧
      fs'.map normalField = (fs.map normalField).map (renamedField f) := by
  induction fs with
  | nil => exact ⟨[], .nil, rfl⟩
  | cons x fs ih =>
    obtain ⟨⟨alts, hx, hc⟩, hfs⟩ := List.forall_mem_cons.1 h
    obtain ⟨fs', hd, hn⟩ := ih hfs
    refine ⟨.mk x.name (unionOf alts) x.required {} :: fs', .cons ⟨alts, hx, rfl⟩ hd, ?_⟩
    rw [List.map_cons, List.map_cons, List.map_cons, hn]
    exact congrArg (fun t => Field.mk x.name t x.required {} :: _) hc

end TypeExpr

end SchemaDecl
