import SchemaDecl.Text.Blank
import SchemaDecl.Text.Utf8

/-! What was written as bytes is read again. Each character is taken up by the bytes it was written as,
whatever follows them, since the first byte tells how many there are and the bounds on the second one
leave out only what no character is written as. Line ends stay as they are in a text without carriage
returns. -/

namespace SchemaDecl.Text

/-! ### Bytes of a character -/

/-- A number that fits into a byte is the number of that byte. -/
theorem toNat_toUInt8 {n : Nat} (h : n < 256) : n.toUInt8.toNat = n :=
  UInt8.toNat_ofNat_of_lt' h

/-- The numbers of characters, without those of halves of pairs. -/
theorem toNat_char_bounds (c : Char) :
    c.toNat < 0xD800 ∨ 0xE000 ≤ c.toNat ∧ c.toNat < 0x110000 := by
  have h : c.toNat < 0xD800 ∨ 0xDFFF < c.toNat ∧ c.toNat < 0x110000 := c.valid
  omega

variable {at_ : Nat} {done : List Char} {b : UInt8} {rest : List UInt8}

theorem decodeFrom_single (h : continuation b.toNat = some (0, 0x80, 0xBF)) :
    decodeFrom at_ none done (b :: rest) =
      decodeFrom (at_ + 1) none (Char.ofNat b.toNat :: done) rest := by
  simp only [decodeFrom, h]

theorem decodeFrom_lead (due : Nat) {low high : Nat}
    (h : continuation b.toNat = some (due + 1, low, high)) :
    decodeFrom at_ none done (b :: rest) =
      decodeFrom (at_ + 1) (some ⟨b, 1, leadBits b.toNat (due + 1), due + 1, low, high⟩) done rest := by
  simp only [decodeFrom, h]

theorem decodeFrom_last {first : UInt8} {read bits low high : Nat} (hl : low ≤ b.toNat)
    (hh : b.toNat ≤ high) :
    decodeFrom at_ (some ⟨first, read, bits, 1, low, high⟩) done (b :: rest) =
      decodeFrom (at_ + 1) none (Char.ofNat (bits * 64 + (b.toNat - 0x80)) :: done) rest := by
  simp [decodeFrom, hl, hh]

theorem decodeFrom_next {first : UInt8} {read bits due low high : Nat} (hl : low ≤ b.toNat)
    (hh : b.toNat ≤ high) :
    decodeFrom at_ (some ⟨first, read, bits, due + 2, low, high⟩) done (b :: rest) =
      decodeFrom (at_ + 1)
        (some ⟨first, read + 1, bits * 64 + (b.toNat - 0x80), due + 1, 0x80, 0xBF⟩) done rest := by
  simp [decodeFrom, hl, hh]

theorem continuation_two : ∀ k < 32, 2 ≤ k → continuation (0xC0 + k) = some (1, 0x80, 0xBF) := by
  decide

theorem continuation_three : ∀ k < 16, continuation (0xE0 + k) =
    some (2, if k = 0 then 0xA0 else 0x80, if k = 13 then 0x9F else 0xBF) := by
  decide

theorem continuation_four : ∀ k < 5, continuation (0xF0 + k) =
    some (3, if k = 0 then 0x90 else 0x80, if k = 4 then 0x8F else 0xBF) := by
  decide

/-! ### Characters -/

theorem toNat_tail (n : Nat) : (0x80 + n % 64).toUInt8.toNat = 0x80 + n % 64 :=
  toNat_toUInt8 (by omega)

theorem decodeFrom_two {n : Nat} (hl : 0x80 ≤ n) (hh : n < 0x800) :
    decodeFrom at_ none done ((0xC0 + n / 64).toUInt8 :: (0x80 + n % 64).toUInt8 :: rest) =
      decodeFrom (at_ + 2) none (Char.ofNat n :: done) rest := by
  have hfirst : (0xC0 + n / 64).toUInt8.toNat = 0xC0 + n / 64 := toNat_toUInt8 (by omega)
  have hlast := toNat_tail n
  have hbits : n / 64 * 64 + n % 64 = n := by omega
  rw [decodeFrom_lead 0 (by rw [hfirst, continuation_two _ (by omega) (by omega)]),
    decodeFrom_last (by omega) (by omega), hlast, hfirst]
  simp [leadBits, hbits]

/-- The bounds on the second byte leave out numbers that are shorter, and halves of pairs. -/
theorem decodeFrom_three {n : Nat} (hl : 0x800 ≤ n) (hh : n < 0x10000)
    (hp : n < 0xD800 ∨ 0xE000 ≤ n) :
    decodeFrom at_ none done
        ((0xE0 + n / 4096).toUInt8 :: (0x80 + n / 64 % 64).toUInt8 :: (0x80 + n % 64).toUInt8 :: rest) =
      decodeFrom (at_ + 3) none (Char.ofNat n :: done) rest := by
  have hfirst : (0xE0 + n / 4096).toUInt8.toNat = 0xE0 + n / 4096 := toNat_toUInt8 (by omega)
  have hsecond := toNat_tail (n / 64)
  have hlast := toNat_tail n
  have hbits : (n / 4096 * 64 + n / 64 % 64) * 64 + n % 64 = n := by omega
  rw [decodeFrom_lead 1 (by rw [hfirst, continuation_three _ (by omega)]),
    decodeFrom_next (by split <;> omega) (by split <;> omega), decodeFrom_last (by omega) (by omega),
    hlast, hsecond, hfirst]
  simp [leadBits, hbits]

/-- The bounds on the second byte leave out numbers that are shorter, and those that are too large. -/
theorem decodeFrom_four {n : Nat} (hl : 0x10000 ≤ n) (hh : n < 0x110000) :
    decodeFrom at_ none done
        ((0xF0 + n / 262144).toUInt8 :: (0x80 + n / 4096 % 64).toUInt8 ::
          (0x80 + n / 64 % 64).toUInt8 :: (0x80 + n % 64).toUInt8 :: rest) =
      decodeFrom (at_ + 4) none (Char.ofNat n :: done) rest := by
  have hfirst : (0xF0 + n / 262144).toUInt8.toNat = 0xF0 + n / 262144 := toNat_toUInt8 (by omega)
  have hsecond := toNat_tail (n / 4096)
  have hthird := toNat_tail (n / 64)
  have hlast := toNat_tail n
  have hbits : ((n / 262144 * 64 + n / 4096 % 64) * 64 + n / 64 % 64) * 64 + n % 64 = n := by omega
  rw [decodeFrom_lead 2 (by rw [hfirst, continuation_four _ (by omega)]),
    decodeFrom_next (by split <;> omega) (by split <;> omega), decodeFrom_next (by omega) (by omega),
    decodeFrom_last (by omega) (by omega), hlast, hthird, hsecond, hfirst]
  simp [leadBits, hbits]

theorem decodeFrom_encodeChar (at_ : Nat) (done : List Char) (c : Char) (rest : List UInt8) :
    decodeFrom at_ none done (encodeChar c ++ rest) =
      decodeFrom (at_ + (encodeChar c).length) none (c :: done) rest := by
  have hc := toNat_char_bounds c
  rw [encodeChar]
  split
  next h =>
    have hb : c.toNat.toUInt8.toNat = c.toNat := toNat_toUInt8 (by omega)
    rw [List.singleton_append, decodeFrom_single (by rw [hb, continuation, if_pos h]), hb,
      Char.ofNat_toNat]
    rfl
  next h1 =>
    split
    next h2 => exact (decodeFrom_two (by omega) h2).trans (by rw [Char.ofNat_toNat]; rfl)
    next h2 =>
      split
      next h3 =>
        exact (decodeFrom_three (by omega) h3 (by omega)).trans (by rw [Char.ofNat_toNat]; rfl)
      next h3 => exact (decodeFrom_four (by omega) (by omega)).trans (by rw [Char.ofNat_toNat]; rfl)

/-! ### Texts -/

/-- Bytes that a text was written as spell that text. -/
theorem decode_encode (s : String) : decode (encode s) = .ok s := by
  have hall : ∀ (cs : List Char) (at_ : Nat) (done : List Char),
      decodeFrom at_ none done (cs.flatMap encodeChar) = .ok (done.reverse ++ cs) := by
    intro cs
    induction cs with
    | nil =>
      intro at_ done
      simp [decodeFrom]
    | cons c cs ih =>
      intro at_ done
      rw [List.flatMap_cons, decodeFrom_encodeChar, ih]
      simp
  rw [decode, encode, hall]
  simp [Except.map]

/-! ### Line ends -/

theorem unifyNewlinesList_eq_self {s : List Char} (h : '\r' ∉ s) : unifyNewlinesList s = s := by
  induction s with
  | nil => rfl
  | cons c s ih =>
    rw [List.mem_cons, not_or] at h
    rw [unifyNewlinesList.eq_def]
    split
    · contradiction
    next he =>
      cases he
      exact absurd rfl h.1
    next he =>
      cases he
      exact absurd rfl h.1
    next he =>
      cases he
      rw [ih h.2]

/-- Reading a text from a file leaves it as it is if it has no carriage returns. -/
theorem unifyNewlines_eq_self {s : String} (h : '\r' ∉ s.toList) : unifyNewlines s = s := by
  rw [unifyNewlines, unifyNewlinesList_eq_self h, String.ofList_toList]

theorem not_mem_unifyNewlinesList (s : List Char) : '\r' ∉ unifyNewlinesList s := by
  fun_induction unifyNewlinesList s with
  | case1 => exact List.not_mem_nil
  | case2 rest ih => simp [ih]
  | case3 rest _ ih => simp [ih]
  | case4 c rest _ hc ih => simpa [ih] using fun he => hc he.symm

/-- It leaves a text as it is only then. -/
theorem unifyNewlines_eq_self_iff {s : String} : unifyNewlines s = s ↔ '\r' ∉ s.toList := by
  refine ⟨fun h => ?_, unifyNewlines_eq_self⟩
  rw [← h, unifyNewlines, String.toList_ofList]
  exact not_mem_unifyNewlinesList _

end SchemaDecl.Text
