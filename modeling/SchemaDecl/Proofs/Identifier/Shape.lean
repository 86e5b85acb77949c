import SchemaDecl.Identifier

/-! The shape of identifiers: letters, digits and underscores of which the first is no digit, and no
reserved word. The identifier of every name has it, and numbering one again and again keeps it and what
it begins with. -/

namespace SchemaDecl.Identifier

/-- Letters, digits and underscores that begin with no digit. -/
structure IsWord (s : List Char) : Prop where
  nonempty : s ≠ []
  chars : ∀ c ∈ s, isLetterOrDigit c
  start : ∀ c ∈ s.head?, ¬isDigit c

/-- What names a declaration. -/
structure WellFormed (s : String) : Prop extends IsWord s.toList where
  notReserved : isReserved s = false

theorem IsWord.append {s t : List Char} (h : IsWord s) (ht : ∀ c ∈ t, isLetterOrDigit c) :
    IsWord (s ++ t) where
  nonempty := by simp [h.nonempty]
  chars c hc := (List.mem_append.1 hc).elim (h.chars c) (ht c)
  start c hc := by
    obtain ⟨d, rest, rfl⟩ := List.exists_cons_of_ne_nil h.nonempty
    exact h.start c hc

/-- No reserved word holds an underscore. -/
theorem not_isReserved_of_underscore {s : String} (h : '_' ∈ s.toList) : isReserved s = false := by
  have hw : ∀ w ∈ reservedWords, '_' ∉ w.toList := by decide
  unfold isReserved
  rw [Bool.eq_false_iff]
  intro hs
  exact hw s (List.contains_iff_mem.1 hs) h

/-- A word with more behind it, an underscore among that, is no reserved word. -/
theorem IsWord.wellFormed_append {s t : String} (h : IsWord s.toList)
    (ht : ∀ c ∈ t.toList, isLetterOrDigit c) (hu : '_' ∈ t.toList) : WellFormed (s ++ t) where
  toIsWord := by
    rw [String.toList_append]
    exact h.append ht
  notReserved := not_isReserved_of_underscore (by simp [hu])

/-! ### Identifiers of names -/

theorem replaceForeign_chars (s : List Char) : ∀ c ∈ replaceForeign s, isLetterOrDigit c := by
  intro c hc
  obtain ⟨d, -, rfl⟩ := List.mem_map.1 hc
  split
  · assumption
  · decide

theorem isWord_underscore : IsWord ['_'] where
  nonempty := List.cons_ne_nil _ _
  chars := List.forall_mem_singleton.2 (by decide)
  start c hc := by
    cases hc
    decide

theorem isWord_guardStart {s : List Char} (h : ∀ c ∈ s, isLetterOrDigit c) :
    IsWord (guardStart s) := by
  unfold guardStart
  split
  next => exact isWord_underscore
  next c rest =>
    split
    next => exact isWord_underscore.append h
    next hd => exact ⟨by simp, h, by simpa using hd⟩

theorem ofName_wellFormed (name : String) : WellFormed (ofName name) := by
  have hw := isWord_guardStart (replaceForeign_chars name.toList)
  simp only [ofName]
  split
  next => exact IsWord.wellFormed_append (by simpa using hw) isWord_underscore.chars (by decide)
  next hr => exact ⟨by simpa using hw, by simpa using hr⟩

theorem replaceForeign_eq_self {s : List Char} (h : '_' ∉ replaceForeign s) : replaceForeign s = s := by
  have hkeep : ∀ c ∈ s, (if isLetterOrDigit c then c else '_') = c := by
    intro c hc
    split
    next => rfl
    next hl =>
      have hmem : '_' ∈ replaceForeign s := List.mem_map.2 ⟨c, hc, if_neg hl⟩
      exact absurd hmem h
  exact (List.map_congr_left hkeep).trans (List.map_id' _)

theorem guardStart_eq_self {s : List Char} (h : '_' ∉ guardStart s) : guardStart s = s := by
  unfold guardStart at h ⊢
  split at h
  next => exact absurd List.mem_cons_self h
  next c rest =>
    split at h
    next => exact absurd List.mem_cons_self h
    next hd => rw [if_neg hd]

/-- An identifier without an underscore is the name that it was made of. -/
theorem ofName_eq_self {name : String} (h : '_' ∉ (ofName name).toList) : ofName name = name := by
  simp only [ofName] at h ⊢
  split at h
  next => simp at h
  next hr =>
    rw [String.toList_ofList] at h
    have hguard := guardStart_eq_self h
    rw [hguard] at h
    rw [if_neg hr, hguard, replaceForeign_eq_self h, String.ofList_toList]

theorem letter_of_isAlpha {c : Char} (h : c.isAlpha) :
    isLetterOrDigit c = true ∧ isDigit c = false ∧ c ≠ '_' := by
  have hcase : c.isUpper ∨ c.isLower := Bool.or_eq_true_iff.1 h
  have hc : 'A' ≤ c ∧ c ≤ 'Z' ∨ 'a' ≤ c ∧ c ≤ 'z' := by
    rcases hcase with hu | hl
    · exact Or.inl (of_decide_eq_true hu)
    · obtain ⟨hlow, hhigh⟩ := Bool.and_eq_true_iff.1 hl
      exact Or.inr ⟨of_decide_eq_true hlow, of_decide_eq_true hhigh⟩
  refine ⟨?_, ?_, ?_⟩
  · rcases hc with hc | hc <;> simp [isLetterOrDigit, hc]
  · simp only [isDigit, Char.le_def, UInt32.le_iff_toNat_le, Char.reduceVal, UInt32.reduceToNat,
      Bool.and_eq_false_iff, decide_eq_false_iff_not] at hc ⊢
    omega
  · rintro rfl
    exact absurd h (by decide)

/-- A name that begins with a letter keeps it. -/
theorem isWord_of_isAlpha {s : List Char} (hne : s ≠ []) (h : ∀ c ∈ s, c.isAlpha) : IsWord s where
  nonempty := hne
  chars c hc := (letter_of_isAlpha (h c hc)).1
  start c hc := by
    rw [(letter_of_isAlpha (h c (List.mem_of_mem_head? hc))).2.1]
    exact Bool.false_ne_true

theorem head?_ofName_of_isAlpha {name : String} {c : Char} (hc : name.toList.head? = some c)
    (h : c.isAlpha) : (ofName name).toList.head? = some c := by
  obtain ⟨rest, hrest⟩ := List.head?_eq_some_iff.1 hc
  obtain ⟨hletter, hdigit, -⟩ := letter_of_isAlpha h
  have hstart : guardStart (replaceForeign name.toList) = c :: replaceForeign rest := by
    rw [hrest, replaceForeign, List.map_cons, if_pos hletter, guardStart, hdigit]
    rfl
  simp only [ofName, hstart]
  split <;> simp

theorem not_isAlpha_of_head?_ofName {name : String} (h : (ofName name).toList.head? = some '_') :
    ∀ c ∈ name.toList.head?, ¬c.isAlpha := by
  intro c hc hletter
  rw [head?_ofName_of_isAlpha hc hletter] at h
  exact (letter_of_isAlpha hletter).2.2 (Option.some.inj h)

/-- A name that is its own identifier is a word. -/
theorem isWord_of_ofName_eq {name : String} (h : ofName name = name) : IsWord name.toList := by
  rw [← h]
  exact (ofName_wellFormed name).toIsWord

/-! ### Numbered variants -/

theorem isLetterOrDigit_of_isDigit {c : Char} (h : c.isDigit) : isLetterOrDigit c := by
  have hc : '0' ≤ c ∧ c ≤ '9' := by simpa [Char.isDigit, Char.le_def] using h
  simp [isLetterOrDigit, hc]

theorem isLetterOrDigit_of_mem_toString {k : Nat} :
    ∀ c ∈ (toString k).toList, isLetterOrDigit c := by
  intro c hc
  rw [Nat.toString_eq_ofList_toDigits, String.toList_ofList] at hc
  exact isLetterOrDigit_of_isDigit (Nat.isDigit_of_mem_toDigits (by omega) (by omega) hc)

/-- Different numbers are written differently. -/
theorem toString_inj {j k : Nat} : toString j = toString k ↔ j = k := by
  refine ⟨fun h => ?_, fun h => h ▸ rfl⟩
  rw [Nat.toString_eq_ofList_toDigits, Nat.toString_eq_ofList_toDigits, String.ofList_inj] at h
  have hvalue := congrArg (fun cs => Nat.ofDigitChars 10 cs 0) h
  rwa [Nat.ofDigitChars_toDigits (by decide) (by decide),
    Nat.ofDigitChars_toDigits (by decide) (by decide)] at hvalue

theorem numbered_injective (base : String) : Function.Injective (Identifier.numbered base) :=
  fun _ _ h => toString_inj.1 ((String.append_right_inj _).1 h)

theorem numbered_ne (base : String) (k : Nat) : Identifier.numbered base k ≠ base := by
  intro h
  have hlength := congrArg String.length h
  simp only [Identifier.numbered, String.length_append, Nat.toString_eq_repr] at hlength
  have hpos := Nat.length_repr_pos (n := k)
  omega

theorem WellFormed.numbered {s : String} (h : WellFormed s) (k : Nat) :
    WellFormed (Identifier.numbered s k) := by
  unfold Identifier.numbered
  rw [String.append_assoc]
  refine h.toIsWord.wellFormed_append ?_ (by simp)
  intro c hc
  rw [String.toList_append, List.mem_append] at hc
  rcases hc with hc | hc
  · obtain rfl : c = '_' := by simpa using hc
    decide
  · exact isLetterOrDigit_of_mem_toString c hc

/-- An identifier behind which numbers were put, none of them below two. -/
inductive Suffixed (base : String) : String → Prop
  | base : Suffixed base base
  | numbered {s : String} (k : Nat) (hk : 2 ≤ k) (h : Suffixed base s) :
      Suffixed base (Identifier.numbered s k)

theorem Suffixed.trans {a b c : String} (hab : Suffixed a b) (hbc : Suffixed b c) : Suffixed a c := by
  induction hbc with
  | base => exact hab
  | numbered k hk _ ih => exact ih.numbered k hk

theorem Suffixed.wellFormed {base s : String} (h : Suffixed base s) (hb : WellFormed base) :
    WellFormed s := by
  induction h with
  | base => exact hb
  | numbered k _ _ ih => exact ih.numbered k

theorem Suffixed.head? {base s : String} (h : Suffixed base s) (hb : base.toList ≠ []) :
    s.toList ≠ [] ∧ s.toList.head? = base.toList.head? := by
  induction h with
  | base => exact ⟨hb, rfl⟩
  | numbered k _ _ ih =>
    obtain ⟨hne, hhead⟩ := ih
    obtain ⟨c, rest, hc⟩ := List.exists_cons_of_ne_nil hne
    rw [← hhead]
    simp [Identifier.numbered, hc]

/-- A number is put behind an underscore and ends with a digit. -/
theorem Suffixed.eq_or_numbered {base s : String} (h : Suffixed base s) :
    s = base ∨ '_' ∈ s.toList ∧ s.toList.getLast? ≠ some '_' := by
  cases h with
  | base => exact Or.inl rfl
  | numbered k _ _ =>
    refine Or.inr ⟨by simp [Identifier.numbered], ?_⟩
    have hdigits : (toString k).toList ≠ [] := by simp
    rw [Identifier.numbered, String.toList_append, List.getLast?_append,
      List.getLast?_eq_some_getLast hdigits, Option.some_or]
    intro hlast
    have hmem : '_' ∈ (toString k).toList := Option.some.inj hlast ▸ List.getLast_mem hdigits
    rw [Nat.toString_eq_ofList_toDigits, String.toList_ofList] at hmem
    exact absurd (Nat.isDigit_of_mem_toDigits (by omega) (by omega) hmem) (by decide)

/-! ### Names that stay as they are -/

theorem replaceForeign_of_chars {s : List Char} (h : ∀ c ∈ s, isLetterOrDigit c) :
    replaceForeign s = s := by
  rw [replaceForeign, List.map_congr_left fun c hc => if_pos (h c hc)]
  exact List.map_id' s

theorem IsWord.guardStart_eq {s : List Char} (h : IsWord s) : guardStart s = s := by
  obtain ⟨c, rest, rfl⟩ := List.exists_cons_of_ne_nil h.nonempty
  exact if_neg (h.start c rfl)

/-- An identifier is what its own name is turned into, and so is nothing else. -/
theorem ofName_eq_self_iff {name : String} : ofName name = name ↔ WellFormed name := by
  constructor
  · intro h
    rw [← h]
    exact ofName_wellFormed name
  · intro h
    simp only [ofName]
    rw [replaceForeign_of_chars h.chars, h.guardStart_eq, String.ofList_toList, h.notReserved]
    exact if_neg Bool.false_ne_true

theorem WellFormed.foldl_numbered {s : String} (h : WellFormed s) (ks : List Nat) :
    WellFormed (ks.foldl Identifier.numbered s) := by
  induction ks generalizing s with
  | nil => exact h
  | cons k ks ih => exact ih (h.numbered k)

/-- The identifier of a name has the shape of identifiers, which are the names that stay as they are; and
numbers put behind it, however many, leave it such a name. -/
theorem wellFormed_and_fixed (name : String) :
    WellFormed (ofName name) ∧ (ofName name = name ↔ WellFormed name) ∧
      ofName (ofName name) = ofName name ∧
      ∀ ks : List Nat, WellFormed (ks.foldl numbered (ofName name)) ∧
        ofName (ks.foldl numbered (ofName name)) = ks.foldl numbered (ofName name) := by
  have hname : WellFormed (ofName name) := ofName_wellFormed name
  exact ⟨hname, ofName_eq_self_iff, ofName_eq_self_iff.2 hname, fun ks =>
    ⟨hname.foldl_numbered ks, ofName_eq_self_iff.2 (hname.foldl_numbered ks)⟩⟩

example : [2, 10].foldl numbered (ofName "2nd class") = "_2nd_class_2_10" := by decide

end SchemaDecl.Identifier
