import SchemaDecl.Proofs.Python.Needs
import SchemaDecl.Proofs.Text.Cutting
import SchemaDecl.Proofs.TypeScript.Fidelity

/-! Types read from Python. A word stands for a type of its own, or with brackets behind it for one that
is made of what they hold. The text of a type gives back the type, with identifiers for names and in
normal form, but for its records, which are written as any dictionary, and for names that are those of
the types of the language. -/

namespace SchemaDecl

open Identifier (ofName isLetterOrDigit)

namespace TypeExpr

mutual

/-- The type without the fields of its records. -/
def erased : TypeExpr → TypeExpr
  | .reference n m => .reference n m
  | .union ms => .union (membersErased ms)
  | .sequence t => .sequence t.erased
  | .record _ => .record []
  | .literals vs => .literals vs
  | .primitive p => .primitive p

def membersErased : List TypeExpr → List TypeExpr
  | [] => []
  | t :: rest => t.erased :: membersErased rest

end

theorem erased_union (ms : List TypeExpr) : (union ms).erased = .union (ms.map erased) := by
  have hmembers : ∀ ms, membersErased ms = ms.map erased := by
    intro ms
    induction ms with
    | nil => rfl
    | cons t ms ih => rw [membersErased, ih, List.map_cons]
  rw [erased, hmembers]

theorem over_erased {N : String → Prop} {t : TypeExpr} (h : Over N t) : Over N t.erased := by
  induction t using induct with
  | reference n m => exact h
  | union ms ih =>
    rw [erased_union, over_union]
    intro t ht
    obtain ⟨m, hm, rfl⟩ := List.mem_map.1 ht
    exact ih m hm (over_union.1 h m hm)
  | sequence t ih => exact ih h
  | record fs _ => nofun
  | literals vs => exact h
  | primitive p => exact h

end TypeExpr

namespace Python

open TypeExpr (unionOf Over Filled Memberless)

/-! ### The reader -/

/-- The words that are types. -/
def typeWords : List String :=
  ["int", "str", "bool"]

/-- The type that a word is. -/
def wordType (w : String) : TypeExpr :=
  if w = "int" then .primitive .number
  else if w = "str" then .primitive .string
  else if w = "bool" then .primitive .boolean
  else .reference w none

/-- Texts up to a closing bracket, and what follows it; the number is at least that of the texts. -/
def readTexts : Nat → List Char → Option (List TypeExpr × List Char)
  | 0, _ => none
  | k + 1, cs =>
    (Text.quoted? cs).bind fun p =>
      match p.2 with
      | ']' :: rest => some ([.literals [p.1]], rest)
      | ',' :: ' ' :: rest => (readTexts k rest).map fun q => (.literals [p.1] :: q.1, q.2)
      | _ => none

mutual

/-- The alternatives of the type that a text begins with, and what follows; the number is at least that
of the types in it. -/
def readType : Nat → List Char → Option (List TypeExpr × List Char)
  | 0, _ => none
  | k + 1, cs =>
    let word := String.ofList (cs.takeWhile isLetterOrDigit)
    match cs.dropWhile isLetterOrDigit with
    | '[' :: rest =>
      if word = "Union" then readTypes k rest
      else if word = "Literal" then readTexts k rest
      else if word = "list" then
        (readType k rest).bind fun p =>
          match p.2 with
          | ']' :: rest => some ([.sequence (unionOf p.1)], rest)
          | _ => none
      else if word = "dict" then (Text.behind? [']'] rest).map fun rest => ([.record []], rest)
      else none
    | rest => some ([wordType word], rest)

/-- The alternatives of all types up to a closing bracket, and what follows it. -/
def readTypes : Nat → List Char → Option (List TypeExpr × List Char)
  | 0, _ => none
  | k + 1, cs =>
    (readType k cs).bind fun p =>
      match p.2 with
      | ']' :: rest => some (p.1, rest)
      | ',' :: ' ' :: rest => (readTypes k rest).map fun q => (p.1 ++ q.1, q.2)
      | _ => none

end

example : readType 5 "Union[list[A], Literal[\"B]\"]], C".toList =
    some ([.sequence (.reference "A" none), .literals ["B]"]], ", C".toList) := by
  decide +kernel

/-- The text is read as these alternatives wherever it ends. -/
def Spells (text : String) (alts : List TypeExpr) : Prop :=
  ∃ k, ∀ n rest, Ends rest → readType (n + k) (text.toList ++ rest) = some (alts, rest)

section Spells

variable {text word : String} {alts : List TypeExpr}

theorem Spells.unique {alts' : List TypeExpr} (h : Spells text alts) (h' : Spells text alts') :
    alts = alts' := by
  obtain ⟨k, hk⟩ := h
  obtain ⟨k', hk'⟩ := h'
  have hread := hk k' [] nofun
  rw [Nat.add_comm, hk' k [] nofun] at hread
  exact (Prod.mk.inj (Option.some.inj hread)).1.symm

theorem not_letter_of_ends {rest : List Char} (h : Ends rest) :
    ∀ c ∈ rest.head?, isLetterOrDigit c = false := by
  intro c hc
  rcases h c hc with rfl | rfl <;> rfl

/-- Brackets behind a word. -/
theorem readType_brackets (word : String) (hw : word.toList.all isLetterOrDigit) (n : Nat)
    (rest : List Char) :
    readType (n + 1) (word.toList ++ '[' :: rest) =
      if word = "Union" then readTypes n rest
      else if word = "Literal" then readTexts n rest
      else if word = "list" then
        (readType n rest).bind fun p =>
          match p.2 with
          | ']' :: rest => some ([.sequence (unionOf p.1)], rest)
          | _ => none
      else if word = "dict" then (Text.behind? [']'] rest).map fun rest => ([.record []], rest)
      else none := by
  have hstop : ∀ c ∈ ('[' :: rest).head?, isLetterOrDigit c = false := by
    rintro c ⟨⟩
    rfl
  rw [List.all_eq_true] at hw
  rw [readType, Text.takeWhile_word hw hstop, Text.dropWhile_word hw hstop, String.ofList_toList]
  rfl

theorem spells_word (hw : word.toList.all isLetterOrDigit) : Spells word [wordType word] := by
  rw [List.all_eq_true] at hw
  refine ⟨1, fun n rest hrest => ?_⟩
  have hstop := not_letter_of_ends hrest
  rw [readType, Text.takeWhile_word hw hstop, Text.dropWhile_word hw hstop, String.ofList_toList]
  split
  next r => rcases hrest '[' rfl with h | h <;> cases h
  next => rfl

theorem spells_dict : Spells "dict[str, Any]" [.record []] := by
  refine ⟨1, fun n rest _ => ?_⟩
  have hbody : ¬[']'] <:+: "str, Any".toList ++ [']'].dropLast := by decide +kernel
  have hread := readType_brackets "dict" (by decide) n ("str, Any".toList ++ ([']'] ++ rest))
  rw [Text.behind?_append hbody rest] at hread
  simpa using hread

/-- The text closes an open bracket. -/
theorem ends_close (rest : List Char) : Ends (']' :: rest) := by
  rintro c ⟨⟩
  exact Or.inr rfl

theorem Spells.sequence (h : Spells text alts) :
    Spells ("list[" ++ text ++ "]") [.sequence (unionOf alts)] := by
  obtain ⟨k, hk⟩ := h
  refine ⟨k + 1, fun n rest _ => ?_⟩
  rw [← Nat.add_assoc]
  have hread := readType_brackets "list" (by decide) (n + k) (text.toList ++ ']' :: rest)
  rw [hk n _ (ends_close rest)] at hread
  simpa using hread

/-- Texts with commas between them are read one by one up to the closing bracket. -/
theorem exists_readTypes {texts : List String} {f : String → List TypeExpr} (hne : texts ≠ [])
    (h : ∀ text ∈ texts, Spells text (f text)) :
    ∃ k, ∀ n rest, readTypes (n + k) ((commaSeparated texts).toList ++ ']' :: rest) =
      some (texts.flatMap f, rest) := by
  induction texts with
  | nil => exact absurd rfl hne
  | cons text texts ih =>
    obtain ⟨⟨k, hk⟩, htexts⟩ := List.forall_mem_cons.1 h
    cases texts with
    | nil =>
      refine ⟨k + 1, fun n rest => ?_⟩
      have hread := hk n _ (ends_close rest)
      rw [← Nat.add_assoc, readTypes, commaSeparated, String.intercalate_singleton, hread]
      simp
    | cons next texts =>
      obtain ⟨j, hj⟩ := ih (List.cons_ne_nil _ _) htexts
      refine ⟨j + k + 1, fun n rest => ?_⟩
      have hcomma : Ends (',' :: ' ' :: ((commaSeparated (next :: texts)).toList ++ ']' :: rest)) := by
        rintro c ⟨⟩
        exact Or.inl rfl
      have htext : (commaSeparated (text :: next :: texts)).toList ++ ']' :: rest =
          text.toList ++ ',' :: ' ' :: ((commaSeparated (next :: texts)).toList ++ ']' :: rest) := by
        simp [commaSeparated, String.intercalate_cons_cons]
      have hrest : readTypes (n + (j + k)) ((commaSeparated (next :: texts)).toList ++ ']' :: rest) =
          some ((next :: texts).flatMap f, rest) := by
        rw [show n + (j + k) = (n + k) + j by omega]
        exact hj (n + k) rest
      have hread : readType (n + (j + k))
          (text.toList ++ ',' :: ' ' :: ((commaSeparated (next :: texts)).toList ++ ']' :: rest)) =
            some (f text, ',' :: ' ' :: ((commaSeparated (next :: texts)).toList ++ ']' :: rest)) := by
        rw [← Nat.add_assoc]
        exact hk (n + j) _ hcomma
      rw [← Nat.add_assoc, readTypes, htext, hread]
      simp only [Option.bind_some, hrest, Option.map_some, List.flatMap_cons]

theorem spells_union {texts : List String} {f : String → List TypeExpr} (hne : texts ≠ [])
    (h : ∀ text ∈ texts, Spells text (f text)) :
    Spells ("Union[" ++ commaSeparated texts ++ "]") (texts.flatMap f) := by
  obtain ⟨k, hk⟩ := exists_readTypes hne h
  refine ⟨k + 1, fun n rest _ => ?_⟩
  rw [← Nat.add_assoc]
  have hread := readType_brackets "Union" (by decide) (n + k)
    ((commaSeparated texts).toList ++ ']' :: rest)
  rw [hk n rest] at hread
  simpa using hread

theorem readTexts_literals (n : Nat) {vs : List String} (hne : vs ≠ []) (rest : List Char) :
    readTexts (n + vs.length) ((commaSeparated (vs.map literal)).toList ++ ']' :: rest) =
      some (vs.map fun v => .literals [v], rest) := by
  induction vs with
  | nil => exact absurd rfl hne
  | cons v vs ih =>
    rw [List.length_cons, ← Nat.add_assoc]
    cases vs with
    | nil =>
      rw [readTexts, List.map_singleton, commaSeparated, String.intercalate_singleton, Text.quoted?_literal]
      rfl
    | cons w vs =>
      have htext : (commaSeparated ((v :: w :: vs).map literal)).toList ++ ']' :: rest =
          (literal v).toList ++
            ',' :: ' ' :: ((commaSeparated ((w :: vs).map literal)).toList ++ ']' :: rest) := by
        simp [commaSeparated, String.intercalate_cons_cons]
      have hnext : ∀ rest, readTexts (n + (w :: vs).length + 1)
          ((literal v).toList ++ ',' :: ' ' :: rest) =
            (readTexts (n + (w :: vs).length) rest).map fun q => (.literals [v] :: q.1, q.2) := by
        intro rest
        rw [readTexts, Text.quoted?_literal]
        rfl
      rw [htext, hnext, ih (List.cons_ne_nil _ _)]
      rfl

theorem spells_literals {vs : List String} (hne : vs ≠ []) :
    Spells ("Literal[" ++ commaSeparated (vs.map literal) ++ "]") (vs.map fun v => .literals [v]) := by
  refine ⟨vs.length + 1, fun n rest _ => ?_⟩
  rw [← Nat.add_assoc]
  have hread := readType_brackets "Literal" (by decide) (n + vs.length)
    ((commaSeparated (vs.map literal)).toList ++ ']' :: rest)
  rw [readTexts_literals n hne] at hread
  simpa using hread

end Spells

/-! ### Types -/

theorem spells_ofName {n : String} (h : ofName n ∉ typeWords) :
    Spells (ofName n) [.reference (ofName n) none] := by
  have hword := spells_word (letters_ofName n)
  simp only [typeWords, List.mem_cons, List.not_mem_nil, or_false, not_or] at h
  rwa [wordType, if_neg h.1, if_neg h.2.1, if_neg h.2.2] at hword

theorem spells_primitive (p : Primitive) : Spells (primitive p) [.primitive p] := by
  cases p <;> exact spells_word (by decide)

/-- The text of a type is read as alternatives that are those of the type, by other names and without the
fields of records. -/
structure Faithful (t : TypeExpr) (alts : List TypeExpr) : Prop where
  spells : Spells (typeText t) alts
  alternatives : firstSeen (alts.flatMap TypeExpr.alternatives) =
    (firstSeen t.erased.alternatives).map (TypeExpr.renamed ofName)

/-- One alternative that is its own normal form. -/
theorem faithful_operand {t x u : TypeExpr} (h : Spells (typeText t) [x])
    (ht : t.erased.alternatives = [u]) (hx : x.alternatives = [u.renamed ofName]) : Faithful t [x] where
  spells := h
  alternatives := by
    rw [List.flatMap_singleton, hx, ht]
    rfl

theorem Faithful.canonical_eq {t : TypeExpr} {alts : List TypeExpr} (h : Faithful t alts) :
    (unionOf alts).canonical = t.erased.canonical.renamed ofName := by
  rw [TypeExpr.canonical, TypeExpr.alternatives_unionOf, h.alternatives, ← TypeExpr.renamed_unionOf]
  rfl

theorem faithful_literals {vs : List String} (hne : vs ≠ []) :
    Faithful (.literals vs) (vs.map fun v => .literals [v]) where
  spells := spells_literals hne
  alternatives := TypeExpr.alternatives_literals ofName vs

theorem spells_unionText {texts : List String} {f : String → List TypeExpr} (hne : texts ≠ [])
    (h : ∀ text ∈ texts, Spells text (f text)) :
    Spells (unionText texts) ((firstSeen texts).flatMap f) := by
  have hfirst : ∀ text ∈ firstSeen texts, Spells text (f text) :=
    fun text ht => h text (mem_firstSeen.1 ht)
  have hne' : firstSeen texts ≠ [] := by
    intro he
    obtain ⟨text, rest, rfl⟩ := List.exists_cons_of_ne_nil hne
    cases he
  unfold unionText
  split
  next text hs =>
    rw [hs, List.flatMap_singleton]
    exact hfirst text (by simp [hs])
  next => exact spells_union hne' hfirst

theorem faithful_union {N : String → Prop} (hN : ∀ a b, N a → N b → ofName a = ofName b → a = b)
    {ms : List TypeExpr} (hne : ms ≠ []) (ho : ∀ t ∈ ms, Over N t.erased)
    (h : ∀ t ∈ ms, ∃ alts, Faithful t alts) : ∃ alts, Faithful (.union ms) alts := by
  have hreads : ∀ t ∈ ms, ∃ alts, Spells (typeText t) alts ∧ Faithful t alts :=
    fun t ht => (h t ht).imp fun alts ha => ⟨ha.spells, ha⟩
  obtain ⟨read, hm⟩ := Text.exists_reading hreads fun _ _ _ => Spells.unique
  have hover : ∀ x ∈ ms.flatMap fun t => t.erased.alternatives, Over N x := by
    intro x hx
    obtain ⟨t, ht, hx⟩ := List.mem_flatMap.1 hx
    exact TypeExpr.over_of_mem_alternatives (ho t ht) x hx
  have hvalues : (TypeExpr.union ms).erased.alternatives = ms.flatMap fun t => t.erased.alternatives := by
    rw [TypeExpr.erased_union, TypeExpr.alternatives_union, List.flatMap_map]
  refine ⟨(firstSeen (ms.map typeText)).flatMap read, ?_, ?_⟩
  · rw [typeText, typeTexts_eq_map]
    exact spells_unionText (by simpa using hne) (List.forall_mem_map.2 fun t ht => (hm t ht).1)
  · rw [hvalues]
    exact TypeExpr.alternatives_firstSeen_texts
      (fun x hx y hy => TypeExpr.renamed_inj hN (hover x hx) (hover y hy))
      fun t ht => (hm t ht).2.alternatives

/-- The text of a type can be read where none of its names is a word that is a type. -/
theorem exists_faithful {N : String → Prop} (hN : ∀ a b, N a → N b → ofName a = ofName b → a = b)
    (hw : ∀ n, N n → ofName n ∉ typeWords) (t : TypeExpr) (hf : t.Filled) (hm : t.Memberless)
    (ho : Over N t.erased) : ∃ alts, Faithful t alts := by
  induction t using TypeExpr.induct with
  | reference n m =>
    cases hm
    exact ⟨_, faithful_operand (spells_ofName (hw n (TypeExpr.over_reference.1 ho))) rfl rfl⟩
  | union ms ih =>
    cases hf with | union hne hf => ?_
    cases hm with | union _ hm => ?_
    rw [TypeExpr.erased_union, TypeExpr.over_union, List.forall_mem_map] at ho
    exact faithful_union hN hne ho fun t ht => ih t ht (hf t ht) (hm t ht) (ho t ht)
  | sequence t ih =>
    cases hf with | sequence hf => ?_
    cases hm with | sequence hm => ?_
    obtain ⟨alts, ha⟩ := ih hf hm ho
    refine ⟨_, faithful_operand ha.spells.sequence (TypeExpr.alternatives_sequence _) ?_⟩
    rw [TypeExpr.alternatives_sequence, ha.canonical_eq, TypeExpr.renamed]
  | record fs _ => exact ⟨_, faithful_operand spells_dict rfl rfl⟩
  | literals vs =>
    cases hf with | literals hne => ?_
    exact ⟨_, faithful_literals hne⟩
  | primitive p => exact ⟨_, faithful_operand (spells_primitive p) rfl rfl⟩

end Python

end SchemaDecl
