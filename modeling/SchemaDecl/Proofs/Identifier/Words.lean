import SchemaDecl.Proofs.Identifier.Shape
import SchemaDecl.Text.Identifier

/-! Identifiers among the words of all scripts. What is a letter, a digit or an underscore in ASCII may stand
in them, no other character of ASCII may, and identifiers of names are such words. -/

namespace SchemaDecl.Identifier

open Text (identifierStart identifierContinue)

/-- Changes beyond a character do not count for it. -/
theorem contains_take (s : Text.CharSet) (k : Nat) {c : Char} (h : ∀ p ∈ s.changes.drop k, c.toNat < p) :
    s.contains c = (⟨s.changes.take k⟩ : Text.CharSet).contains c := by
  have hrest : (s.changes.drop k).countP (fun p => decide (p ≤ c.toNat)) = 0 :=
    List.countP_eq_zero.2 fun p hp => by simpa using h p hp
  have hsplit : s.changes.countP (fun p => decide (p ≤ c.toNat)) =
      (s.changes.take k).countP fun p => decide (p ≤ c.toNat) := by
    rw [← Nat.add_zero ((s.changes.take k).countP _), ← hrest, ← List.countP_append,
      List.take_append_drop]
  rw [Text.CharSet.contains, hsplit]
  rfl

/-- In ASCII letters, digits and the underscore make words. -/
theorem contains_ascii {c : Char} (h : c.toNat < 128) :
    identifierStart.contains c = Text.CharSet.contains ⟨[65, 91, 95, 96, 97, 123]⟩ c ∧
      identifierContinue.contains c = Text.CharSet.contains ⟨[48, 58, 65, 91, 95, 96, 97, 123]⟩ c := by
  have hs : ∀ p ∈ identifierStart.changes.drop 6, 128 ≤ p := by decide +kernel
  have hc : ∀ p ∈ identifierContinue.changes.drop 8, 128 ≤ p := by decide +kernel
  exact ⟨contains_take identifierStart 6 fun p hp => Nat.lt_of_lt_of_le h (hs p hp),
    contains_take identifierContinue 8 fun p hp => Nat.lt_of_lt_of_le h (hc p hp)⟩

theorem lt_of_isLetterOrDigit {c : Char} (h : isLetterOrDigit c) : c.toNat < 128 := by
  refine Nat.lt_of_not_le fun hge => ?_
  have hle : ∀ x : Char, x.toNat < 128 → (c ≤ x) = False := fun x hx =>
    eq_false fun hcx => by
      have : c.toNat ≤ x.toNat := hcx
      omega
  have hu : c ≠ '_' := by
    rintro rfl
    exact absurd hge (by decide)
  simp [isLetterOrDigit, hle '9' (by decide), hle 'Z' (by decide), hle 'z' (by decide), hu] at h

theorem identifierContinue_of_isLetterOrDigit {c : Char} (h : isLetterOrDigit c) :
    identifierContinue.contains c ∧ (Identifier.isDigit c = false → identifierStart.contains c) := by
  have hall : ∀ n < 128, isLetterOrDigit (Char.ofNat n) →
      Text.CharSet.contains ⟨[48, 58, 65, 91, 95, 96, 97, 123]⟩ (Char.ofNat n) ∧
      (Identifier.isDigit (Char.ofNat n) = false →
        Text.CharSet.contains ⟨[65, 91, 95, 96, 97, 123]⟩ (Char.ofNat n)) := by
    decide +kernel
  have hlt := lt_of_isLetterOrDigit h
  have hc := hall c.toNat hlt
  rw [Char.ofNat_toNat, ← (contains_ascii hlt).1, ← (contains_ascii hlt).2] at hc
  exact hc h

/-- Letters, digits and underscores are an identifier. -/
theorem isIdentifier_of_isWord {s : String} (h : IsWord s.toList) : Text.isIdentifier s = true := by
  obtain ⟨c, cs, hs⟩ := List.exists_cons_of_ne_nil h.nonempty
  have hchars := h.chars
  have hstart := h.start
  rw [hs, List.forall_mem_cons] at hchars
  rw [hs] at hstart
  rw [Text.isIdentifier, hs, Text.isIdentifierList, Bool.and_eq_true, List.all_eq_true]
  exact ⟨(identifierContinue_of_isLetterOrDigit hchars.1).2 (by simpa using hstart c rfl),
    fun x hx => (identifierContinue_of_isLetterOrDigit (hchars.2 x hx)).1⟩

theorem isIdentifier_ofName (name : String) : Text.isIdentifier (Identifier.ofName name) = true :=
  isIdentifier_of_isWord (Identifier.ofName_wellFormed name).toIsWord

/-- An identifier of its own is one word. -/
theorem isIdentifier_of_ofName_eq {s : String} (h : Identifier.ofName s = s) :
    Text.isIdentifier s = true :=
  isIdentifier_of_isWord (Identifier.isWord_of_ofName_eq h)

/-- What stands in an identifier is beyond ASCII or a letter, a digit or an underscore. -/
theorem isLetterOrDigit_of_isIdentifierList {s : List Char} (h : Text.isIdentifierList s = true) :
    ∀ c ∈ s, c.toNat < 128 → isLetterOrDigit c = true := by
  have hall : ∀ n < 128, (Text.CharSet.contains ⟨[65, 91, 95, 96, 97, 123]⟩ (Char.ofNat n) ||
      Text.CharSet.contains ⟨[48, 58, 65, 91, 95, 96, 97, 123]⟩ (Char.ofNat n)) →
      isLetterOrDigit (Char.ofNat n) := by
    decide +kernel
  intro c hc hlt
  have hletter := hall c.toNat hlt
  rw [Char.ofNat_toNat, ← (contains_ascii hlt).1, ← (contains_ascii hlt).2, Bool.or_eq_true] at hletter
  cases s with
  | nil => cases hc
  | cons d rest =>
    rw [Text.isIdentifierList, Bool.and_eq_true, List.all_eq_true] at h
    rcases List.mem_cons.1 hc with rfl | hc
    · exact hletter (Or.inl h.1)
    · exact hletter (Or.inr (h.2 c hc))

end SchemaDecl.Identifier
