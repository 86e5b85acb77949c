import Mathlib.Tactic.SplitIfs
import SchemaDecl.Proofs.Text.Decomposition
import SchemaDecl.Text.Combining

/-! The compatibility normal form of identifiers. Each character is put as what it is written for, the
marks behind a base are put in order, and bases and marks are composed again. Characters of ASCII stand
for themselves, and none of them comes of others. -/

namespace SchemaDecl.Text

/-! ### Decomposition -/

/-- All compositions, by their marks. -/
def allCompositions : List (Nat × List (Nat × Nat)) :=
  compositions ++ furtherCompositions

/-- The syllables of Hangul that are one character each: the first and how many there are. -/
def syllables : Nat × Nat :=
  (0xAC00, 11172)

/-- What a syllable consists of: two letters, and a third one in most of them. -/
def lettersOf (n : Nat) : List Nat :=
  let k := n - syllables.1
  [0x1100 + k / 588, 0x1161 + k % 588 / 28] ++ if k % 28 = 0 then [] else [0x11A7 + k % 28]

/-- The other characters that a character is a form of. -/
def formOf? (n : Nat) : Option (List Nat) :=
  ((singleForms.findSome? fun (first, count, target, step) =>
    if first ≤ n ∧ n < first + count then some [target + step * (n - first)] else none) <|>
  (ideographForms.findSome? fun (first, targets) =>
    if first ≤ n then targets[n - first]?.map fun t => [t] else none)) <|> sequenceForms.lookup n

/-- The base and the mark that a character is composed of. -/
def composedOf? (n : Nat) : Option (Nat × Nat) :=
  allCompositions.findSome? fun (mark, bases) =>
    (bases.find? fun e => e.2 == n).map fun e => (e.1, mark)

/-- What is left of a character when marks are taken from it, at most as many as `fuel`. -/
def withoutMarks : Nat → Nat → List Nat
  | 0, n => [n]
  | fuel + 1, n =>
    match composedOf? n with
    | some (base, mark) => withoutMarks fuel base ++ [mark]
    | none => [n]

/-- What a character consists of. No character has more than three marks. -/
def decompose (n : Nat) : List Nat :=
  if n < 128 then [n]
  else if syllables.1 ≤ n ∧ n < syllables.1 + syllables.2 then lettersOf n
  else (formOf? n).getD (withoutMarks 3 n)

/-! ### Order -/

/-- The class of a character among marks. -/
def orderOf (n : Nat) : Nat :=
  (furtherOrders.findSome? fun (first, count, order) =>
    if first ≤ n ∧ n < first + count then some order else none).getD (markOrder (Char.ofNat n))

/-- Puts a character in front of others, behind the marks of lower classes. -/
def insertMark (n : Nat) : List Nat → List Nat
  | [] => [n]
  | m :: ms =>
    if 0 < orderOf m ∧ orderOf m < orderOf n then m :: insertMark n ms else n :: m :: ms

/-- Puts marks in the order of their classes. -/
def inOrder : List Nat → List Nat
  | [] => []
  | n :: ns => insertMark n (inOrder ns)

/-! ### Composition -/

/-- The character that a base and what follows it form. -/
def compose? (base n : Nat) : Option Nat :=
  if n < 128 then none
  else if 0x1100 ≤ base ∧ base < 0x1113 ∧ 0x1161 ≤ n ∧ n < 0x1176 then
    some (syllables.1 + ((base - 0x1100) * 21 + (n - 0x1161)) * 28)
  else if syllables.1 ≤ base ∧ base < syllables.1 + syllables.2 ∧ (base - syllables.1) % 28 = 0 ∧
      0x11A7 < n ∧ n < 0x11C3 then
    some (base + (n - 0x11A7))
  else allCompositions.findSome? fun (mark, bases) => if mark = n then bases.lookup base else none

/-- Composes what follows a base, with marks in between that were not joined with it. A mark of the same
class, or a base, keeps what stands behind from being joined. -/
def composeFrom (base : Nat) (between : List Nat) : List Nat → List Nat
  | [] => base :: between
  | n :: ns =>
    let joined := if between.getLast?.any fun m => orderOf n ≤ orderOf m then none else compose? base n
    match joined with
    | some c => composeFrom c between ns
    | none =>
      if orderOf n = 0 then base :: between ++ composeFrom n [] ns
      else composeFrom base (between ++ [n]) ns

def composeAll : List Nat → List Nat
  | [] => []
  | n :: ns => if orderOf n = 0 then composeFrom n [] ns else n :: composeAll ns

/-- The normal form of characters by their numbers. -/
def normalize (ns : List Nat) : List Nat :=
  composeAll (inOrder (ns.flatMap decompose))

/-- The compatibility normal form of a text. -/
def normalForm (s : List Char) : List Char :=
  (normalize (s.map Char.toNat)).map Char.ofNat

example : normalForm "\ufb01".toList = "fi".toList ∧
    normalForm "e\u0301\u0323".toList = "\u1eb9\u0301".toList := by
  decide +kernel

/-! ### Characters of ASCII -/

section

variable {n : Nat}

theorem decompose_ascii (h : n < 128) : decompose n = [n] :=
  if_pos h

/-- The characters of ASCII are bases. -/
theorem orderOf_ascii (h : n < 128) : orderOf n = 0 := by
  have hmarks : ∀ e ∈ markOrders, e.1 < 128 → e.2 = 0 := by decide +kernel
  have hfurther : ∀ e ∈ furtherOrders, 128 ≤ e.1 := by decide +kernel
  have hnum : (Char.ofNat n).toNat = n := by
    have hvalid : n.isValidChar := Or.inl (by omega)
    rw [Char.ofNat, dif_pos hvalid]
    rfl
  have hfold : ∀ es : List (Nat × Nat), (∀ e ∈ es, e.1 < 128 → e.2 = 0) →
      es.foldl (fun k e => if e.1 ≤ n then e.2 else k) 0 = 0 := by
    intro es hes
    induction es with
    | nil => rfl
    | cons e es ih =>
      obtain ⟨he, hes⟩ := List.forall_mem_cons.1 hes
      rw [List.foldl_cons]
      split
      next hle => rw [he (by omega), ih hes]
      next => exact ih hes
  have hnone : furtherOrders.findSome? (fun (first, count, order) =>
      if first ≤ n ∧ n < first + count then some order else none) = none := by
    rw [List.findSome?_eq_none_iff]
    rintro ⟨first, count, order⟩ he
    have hle := hfurther _ he
    exact if_neg (by omega)
  rw [orderOf, hnone, Option.getD_none, markOrder, hnum, hfold _ hmarks]

theorem compose?_ascii (base : Nat) (h : n < 128) : compose? base n = none :=
  if_pos h

/-- What is composed is no character of ASCII. -/
theorem le_of_compose? {base c : Nat} (h : compose? base n = some c) : 128 ≤ c := by
  have htable : ∀ e ∈ allCompositions, ∀ p ∈ e.2, 128 ≤ p.2 := by decide +kernel
  have hfirst : 128 ≤ syllables.1 := by decide
  rw [compose?] at h
  split_ifs at h with hn hpair hthird
  · rw [← Option.some.inj h]
    exact Nat.le_trans hfirst (Nat.le_add_right _ _)
  · rw [← Option.some.inj h]
    exact Nat.le_trans (Nat.le_trans hfirst hthird.1) (Nat.le_add_right _ _)
  · obtain ⟨⟨mark, bases⟩, he, hlookup⟩ := List.exists_of_findSome?_eq_some h
    dsimp only at hlookup
    split_ifs at hlookup
    obtain ⟨before, after, hbases, -⟩ := List.lookup_eq_some_iff.1 hlookup
    exact htable _ he (base, c) (by rw [hbases]; simp)

theorem insertMark_ascii (h : n < 128) (ns : List Nat) : insertMark n ns = n :: ns := by
  cases ns with
  | nil => rfl
  | cons m ms => rw [insertMark, if_neg (by rw [orderOf_ascii h]; omega)]

theorem composeFrom_ascii (base : Nat) (h : n < 128) (ns : List Nat) :
    composeFrom base [] (n :: ns) = base :: composeFrom n [] ns := by
  simp [composeFrom, compose?_ascii base h, orderOf_ascii h]

/-- A base stays the first of what is composed, unless it is joined with marks. -/
theorem composeFrom_eq_cons (base : Nat) (between ns : List Nat) :
    ∃ d rest, composeFrom base between ns = d :: rest ∧ (d = base ∨ 128 ≤ d) := by
  induction ns generalizing base between with
  | nil => exact ⟨base, between, rfl, Or.inl rfl⟩
  | cons n ns ih =>
    rw [composeFrom]
    split
    next c hc =>
      obtain ⟨d, rest, hd, hdc⟩ := ih c between
      have hle : 128 ≤ c := by
        split_ifs at hc
        exact le_of_compose? hc
      exact ⟨d, rest, hd, Or.inr (by omega)⟩
    next =>
      split_ifs
      · exact ⟨base, _, rfl, Or.inl rfl⟩
      · exact ih base _

/-- A character of ASCII in front of another one stays where it is. -/
theorem normalize_cons_cons {m : Nat} (hn : n < 128) (hm : m < 128) (ns : List Nat) :
    normalize (n :: m :: ns) = n :: normalize (m :: ns) := by
  have hone : ∀ k : Nat, k < 128 → ∀ ks, inOrder ((k :: ks).flatMap decompose) =
      k :: inOrder (ks.flatMap decompose) := by
    intro k hk ks
    rw [List.flatMap_cons, decompose_ascii hk, List.singleton_append, inOrder, insertMark_ascii hk]
  rw [normalize, normalize, hone n hn, hone m hm, composeAll, if_pos (orderOf_ascii hn), composeAll,
    if_pos (orderOf_ascii hm), composeFrom_ascii n hm]

theorem normalize_eq_cons (hn : n < 128) (ns : List Nat) :
    ∃ d rest, normalize (n :: ns) = d :: rest ∧ (d = n ∨ 128 ≤ d) := by
  rw [normalize, List.flatMap_cons, decompose_ascii hn, List.singleton_append, inOrder,
    insertMark_ascii hn, composeAll, if_pos (orderOf_ascii hn)]
  exact composeFrom_eq_cons _ _ _

theorem normalize_ascii {ns : List Nat} (h : ∀ n ∈ ns, n < 128) : normalize ns = ns := by
  induction ns with
  | nil => rfl
  | cons n ns ih =>
    obtain ⟨hn, hns⟩ := List.forall_mem_cons.1 h
    cases ns with
    | nil =>
      rw [normalize, List.flatMap_cons, decompose_ascii hn]
      simp [inOrder, insertMark, composeAll, composeFrom, orderOf_ascii hn]
    | cons m ns => rw [normalize_cons_cons hn (List.forall_mem_cons.1 hns).1, ih hns]

end

/-- Names of ASCII characters are in the normal form. -/
theorem normalForm_ascii {s : List Char} (h : ∀ c ∈ s, c.toNat < 128) : normalForm s = s := by
  rw [normalForm, normalize_ascii (List.forall_mem_map.2 h), List.map_map]
  exact (List.map_congr_left fun c _ => Char.ofNat_toNat c).trans (List.map_id s)

end SchemaDecl.Text
