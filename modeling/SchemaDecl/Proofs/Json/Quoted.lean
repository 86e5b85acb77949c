import Mathlib.Algebra.Order.BigOperators.Group.List
import Mathlib.Tactic.SplitIfs
import SchemaDecl.Json.Reader
import SchemaDecl.Json.Writer
import SchemaDecl.Proofs.Text.Utf8
import SchemaDecl.Text.Quoted

/-! Texts between double quotes are read as they were written. Each character is taken up by whatever it
was written as: itself, a letter behind a backslash, or four digits, twice for a character beyond the
first plane. That no digits stand at the end of the input is due to the closing quote. -/

namespace SchemaDecl.Json

/-! ### Digits -/

theorem hexValue?_hexDigit : ∀ n < 16, hexValue? (Text.hexDigit n) = some n := by
  decide

theorem unit?_hex {n : Nat} (h : n < 0x10000) (rest : List Char) :
    unit? (Text.hex 4 n ++ rest) = some (n, rest) := by
  have hdigits : Text.hex 4 n = [Text.hexDigit (n / 4096 % 16), Text.hexDigit (n / 256 % 16),
      Text.hexDigit (n / 16 % 16), Text.hexDigit (n % 16)] := by
    simp [Text.hex, List.range_succ]
  have hvalue : ((n / 4096 % 16) * 16 + n / 256 % 16) * 256 + n / 16 % 16 * 16 + n % 16 = n := by
    omega
  rw [hdigits]
  simp only [List.cons_append, List.nil_append, unit?]
  rw [hexValue?_hexDigit _ (by omega), hexValue?_hexDigit _ (by omega),
    hexValue?_hexDigit _ (by omega), hexValue?_hexDigit _ (by omega)]
  exact congrArg (fun m => some (m, rest)) hvalue

theorem unitChar_of_lt {n : Nat} (h : n < 0xD800 ∨ 0xE000 ≤ n) : unitChar n = Char.ofNat n := by
  rw [unitChar, if_neg]
  simp only [Bool.and_eq_true, decide_eq_true_eq]
  omega

/-- An escape by four digits is read as the character of that number. -/
theorem readUnit_hex {n : Nat} (h : n < 0x10000) (hp : n < 0xD800 ∨ 0xE000 ≤ n) {rest : List Char}
    (hr : rest ≠ []) : readUnit (Text.hex 4 n ++ rest) = .ok (Char.ofNat n, rest) := by
  have hlead : (decide (0xD800 ≤ n) && decide (n < 0xDC00)) = false := by
    rw [Bool.and_eq_false_iff, decide_eq_false_iff_not, decide_eq_false_iff_not]
    omega
  obtain ⟨c, r, rfl⟩ := List.exists_cons_of_ne_nil hr
  rw [readUnit, unit?_hex h]
  dsimp only
  split
  · rw [hlead, Bool.false_and, if_neg (by decide), unitChar_of_lt hp]
  · rw [unitChar_of_lt hp]

/-- A pair of escapes is read as the character that it was made from. -/
theorem readUnit_pair {n : Nat} (h : n < 0x100000) {rest : List Char} (hr : rest ≠ []) :
    readUnit (Text.hex 4 (0xD800 + n / 1024) ++ '\\' :: 'u' ::
        (Text.hex 4 (0xDC00 + n % 1024) ++ rest)) = .ok (Char.ofNat (0x10000 + n), rest) := by
  have hlength : 4 < (Text.hex 4 (0xDC00 + n % 1024) ++ rest).length := by
    have := List.length_pos_iff.2 hr
    simp [Text.hex]
    omega
  have hlead : (decide (0xD800 ≤ 0xD800 + n / 1024) && decide (0xD800 + n / 1024 < 0xDC00) &&
      decide (4 < (Text.hex 4 (0xDC00 + n % 1024) ++ rest).length)) = true := by
    simp only [Bool.and_eq_true, decide_eq_true_eq]
    omega
  have hlow : (decide (0xDC00 ≤ 0xDC00 + n % 1024) && decide (0xDC00 + n % 1024 < 0xE000)) = true := by
    simp only [Bool.and_eq_true, decide_eq_true_eq]
    omega
  have hvalue : 0x10000 + (0xD800 + n / 1024 - 0xD800) * 1024 + (0xDC00 + n % 1024 - 0xDC00) =
      0x10000 + n := by
    omega
  simp only [readUnit, unit?_hex (show 0xD800 + n / 1024 < 0x10000 by omega),
    unit?_hex (show 0xDC00 + n % 1024 < 0x10000 by omega), hlead, hlow, hvalue, if_pos]

/-! ### Characters -/

variable {opening fuel : Nat} {done rest : List Char} {c : Char}

theorem readText_self (hq : c ≠ '"') (hb : c ≠ '\\') (hc : 32 ≤ c.toNat) :
    readText opening (fuel + 1) done (c :: rest) = readText opening fuel (c :: done) rest := by
  simp [readText, Nat.not_lt.2 hc]

theorem readText_letter {e : Char} (he : letterEscape? e = some c) :
    readText opening (fuel + 1) done ('\\' :: e :: rest) = readText opening fuel (c :: done) rest := by
  have hu : e ≠ 'u' := by
    rintro rfl
    cases he
  simp [readText, he]

theorem readText_unit {r : List Char} (h : readUnit r = .ok (c, rest)) :
    readText opening (fuel + 1) done ('\\' :: 'u' :: r) = readText opening fuel (c :: done) rest := by
  simp [readText, h]

theorem exists_letterEscape? {s : List Char} (h : Text.shortEscape? c = some s) :
    ∃ e, s = ['\\', e] ∧ letterEscape? e = some c ∧ e ≠ '\r' := by
  unfold Text.shortEscape? at h
  split_ifs at h with h1 h2 h3 h4 h5 h6 h7
  · exact ⟨'"', (Option.some.inj h).symm, by rw [beq_iff_eq.1 h1]; rfl, by decide⟩
  · exact ⟨'\\', (Option.some.inj h).symm, by rw [beq_iff_eq.1 h2]; rfl, by decide⟩
  · exact ⟨'n', (Option.some.inj h).symm, by rw [beq_iff_eq.1 h3]; rfl, by decide⟩
  · exact ⟨'r', (Option.some.inj h).symm, by rw [beq_iff_eq.1 h4]; rfl, by decide⟩
  · exact ⟨'t', (Option.some.inj h).symm, by rw [beq_iff_eq.1 h5]; rfl, by decide⟩
  · exact ⟨'b', (Option.some.inj h).symm, by rw [beq_iff_eq.1 h6]; rfl, by decide⟩
  · exact ⟨'f', (Option.some.inj h).symm, by rw [beq_iff_eq.1 h7]; rfl, by decide⟩

theorem ne_of_shortEscape?_eq_none (h : Text.shortEscape? c = none) : c ≠ '"' ∧ c ≠ '\\' := by
  constructor
  · rintro rfl
    exact absurd h (by decide)
  · rintro rfl
    exact absurd h (by decide)

theorem readText_quoteChar (hr : rest ≠ []) :
    readText opening (fuel + 1) done (Text.quoteChar c ++ rest) =
      readText opening fuel (c :: done) rest := by
  rw [Text.quoteChar]
  split
  next s h =>
    obtain ⟨e, rfl, he, -⟩ := exists_letterEscape? h
    exact readText_letter he
  next h =>
    obtain ⟨hq, hb⟩ := ne_of_shortEscape?_eq_none h
    by_cases hc : c.toNat < 32
    · have hread := readUnit_hex (show c.toNat < 0x10000 by omega) (by omega) hr
      rw [Char.ofNat_toNat] at hread
      rw [if_pos hc]
      exact readText_unit hread
    · rw [if_neg hc]
      exact readText_self hq hb (by omega)

theorem readText_quoteAsciiChar (hr : rest ≠ []) :
    readText opening (fuel + 1) done (Text.quoteAsciiChar c ++ rest) =
      readText opening fuel (c :: done) rest := by
  have hbounds := Text.toNat_char_bounds c
  rw [Text.quoteAsciiChar]
  split
  next s h =>
    obtain ⟨e, rfl, he, -⟩ := exists_letterEscape? h
    exact readText_letter he
  next h =>
    obtain ⟨hq, hb⟩ := ne_of_shortEscape?_eq_none h
    split_ifs with hc hu
    · rw [Bool.and_eq_true, decide_eq_true_eq, decide_eq_true_eq] at hc
      exact readText_self hq hb hc.1
    · have hread := readUnit_hex hu (by omega) hr
      rw [Char.ofNat_toNat] at hread
      exact readText_unit hread
    · have hread := readUnit_pair (show c.toNat - 0x10000 < 0x100000 by omega) hr
      rw [Nat.add_sub_cancel' (by omega), Char.ofNat_toNat] at hread
      rw [List.append_assoc]
      exact readText_unit hread

/-! ### Texts -/

/-- What is read up to the closing quote, when the characters were written one after another. -/
theorem readText_flatMap {mark : Char → List Char}
    (hmark : ∀ {opening fuel done rest c}, rest ≠ [] →
      readText opening (fuel + 1) done (mark c ++ rest) = readText opening fuel (c :: done) rest)
    {cs : List Char} (hf : cs.length < fuel) :
    readText opening fuel done (cs.flatMap mark ++ '"' :: rest) =
      .ok (String.ofList (done.reverse ++ cs), rest) := by
  induction cs generalizing fuel done with
  | nil =>
    obtain ⟨fuel, rfl⟩ := Nat.exists_eq_succ_of_ne_zero (Nat.ne_of_gt hf)
    simp [readText]
  | cons c cs ih =>
    obtain ⟨fuel, rfl⟩ := Nat.exists_eq_succ_of_ne_zero (Nat.ne_of_gt (Nat.zero_lt_of_lt hf))
    rw [List.flatMap_cons, List.append_assoc, hmark (by simp), ih (by simpa using hf)]
    simp

/-- How a style writes a character between quotes. -/
def Style.mark (style : Style) (c : Char) : List Char :=
  if style.ascii then Text.quoteAsciiChar c else Text.quoteChar c

theorem Style.toList_text (style : Style) (s : String) :
    (style.text s).toList = '"' :: (s.toList.flatMap style.mark ++ ['"']) := by
  have hmark : style.mark = if style.ascii then Text.quoteAsciiChar else Text.quoteChar := by
    funext c
    rw [Style.mark]
    split <;> rfl
  rw [Style.text, hmark]
  split
  · exact String.toList_ofList
  · exact String.toList_ofList

theorem readText_mark {style : Style} (hr : rest ≠ []) :
    readText opening (fuel + 1) done (style.mark c ++ rest) =
      readText opening fuel (c :: done) rest := by
  rw [Style.mark]
  split
  · exact readText_quoteAsciiChar hr
  · exact readText_quoteChar hr

theorem return_notMem_unitEscape (n : Nat) : '\r' ∉ Text.unitEscape n := by
  have hdigit : ∀ k < 16, '\r' ≠ Text.hexDigit k := by decide
  have hhex : '\r' ∉ Text.hex 4 n := by
    rintro h
    obtain ⟨k, -, hk⟩ := List.mem_map.1 h
    exact hdigit _ (Nat.mod_lt _ (by decide)) hk.symm
  simp [Text.unitEscape, hhex]

/-- A character is written as something, and not as a carriage return. -/
theorem mark_ne_nil_and_return_notMem (style : Style) (c : Char) :
    style.mark c ≠ [] ∧ '\r' ∉ style.mark c := by
  have hself : Text.shortEscape? c = none → '\r' ∉ [c] := by
    rintro h hm
    rw [← List.mem_singleton.1 hm] at h
    cases h
  rw [Style.mark, Text.quoteAsciiChar, Text.quoteChar]
  cases h : Text.shortEscape? c with
  | some s =>
    obtain ⟨e, rfl, -, he⟩ := exists_letterEscape? h
    simp [he.symm]
  | none =>
    have hunit := return_notMem_unitEscape
    dsimp only
    split_ifs
    · exact ⟨by simp, hself h⟩
    · exact ⟨by simp [Text.unitEscape], hunit _⟩
    · exact ⟨by simp [Text.unitEscape], by simp [hunit]⟩
    · exact ⟨by simp [Text.unitEscape], hunit _⟩
    · exact ⟨by simp, hself h⟩

/-- A written text is read as itself from behind its first quote, whatever follows it. -/
theorem readText_text (style : Style) (s : String) (opening : Nat) (rest : List Char) :
    readText opening ((s.toList.flatMap style.mark ++ '"' :: rest).length + 1) []
        (s.toList.flatMap style.mark ++ '"' :: rest) = .ok (s, rest) := by
  have hlength : s.toList.length ≤ (s.toList.flatMap style.mark).length := by
    rw [List.length_flatMap]
    have hsum := List.length_le_sum_of_one_le (s.toList.map fun c => (style.mark c).length) (by
      intro n hn
      obtain ⟨c, -, rfl⟩ := List.mem_map.1 hn
      exact List.length_pos_iff.2 (mark_ne_nil_and_return_notMem style c).1)
    rwa [List.length_map] at hsum
  rw [readText_flatMap readText_mark (by rw [List.length_append]; omega)]
  simp

theorem return_notMem_text (style : Style) (s : String) : '\r' ∉ (style.text s).toList := by
  rw [Style.toList_text]
  simp [List.mem_flatMap, (mark_ne_nil_and_return_notMem style _).2]

end SchemaDecl.Json
