import Mathlib.Data.List.Basic
import SchemaDecl.Calendar.Moment
import SchemaDecl.Proofs.Text.Cutting

/-! Dates and times are read as they are written, also among blanks. Each part has its width, so that its
digits are read whatever stands behind them, and each reader stops where the text of its part ends. The
length tells a date from a time, since the text of a time is longer than that of any date. What a time loses
is an offset of less than a second: a whole part of zero counts as no offset at all. -/

namespace SchemaDecl

namespace Iso

/-! ### Characters -/

/-- A character of the range from the plus sign to `Z`, which holds all that stands in dates and times. -/
def IsMark (c : Char) : Prop :=
  43 ≤ c.toNat ∧ c.toNat ≤ 90

instance : DecidablePred IsMark := fun _ => inferInstanceAs (Decidable (_ ∧ _))

theorem isMark_of_isDigit {c : Char} (h : c.isDigit) : IsMark c := by
  simp only [Char.isDigit, Bool.and_eq_true, decide_eq_true_eq, UInt32.le_iff_toNat_le] at h
  exact ⟨Nat.le_trans (by decide) h.1, Nat.le_trans h.2 (by decide)⟩

theorem IsMark.utf8Size_eq_one {c : Char} (h : IsMark c) : c.utf8Size = 1 :=
  Char.utf8Size_eq_one_iff.2 (UInt32.le_iff_toNat_le.2 (Nat.le_trans h.2 (by decide)))

theorem IsMark.isBlank_eq_false {c : Char} (h : IsMark c) : Text.isBlank c = false := by
  obtain ⟨hlow, hhigh⟩ := h
  have hbelow : ∀ p ≤ 33, p ≤ c.toNat := fun p hp => by omega
  have habove : ∀ p, 133 ≤ p → ¬p ≤ c.toNat := fun p hp => by omega
  simp [Text.isBlank, Text.CharSet.contains, Text.blankChars, hbelow, habove]

theorem not_startsOffset_of_isDigit {c : Char} (h : c.isDigit) : startsOffset c = false := by
  rw [Bool.eq_false_iff]
  intro hs
  simp only [startsOffset, Bool.or_eq_true, beq_iff_eq] at hs
  rcases hs with (rfl | rfl) | rfl <;> exact absurd h (by decide)

theorem foldl_utf8Size (s : List Char) (n : Nat) :
    s.foldl (fun n c => n + c.utf8Size) n = n + byteLength s := by
  induction s generalizing n with
  | nil => rfl
  | cons c s ih => rw [byteLength, List.foldl_cons, List.foldl_cons, ih, ih (0 + _)]; omega

theorem byteLength_cons (c : Char) (s : List Char) : byteLength (c :: s) = c.utf8Size + byteLength s := by
  rw [byteLength, List.foldl_cons, foldl_utf8Size, Nat.zero_add]

theorem length_le_byteLength (s : List Char) : s.length ≤ byteLength s := by
  induction s with
  | nil => exact Nat.le_refl _
  | cons c s ih =>
    have := c.utf8Size_pos
    rw [List.length_cons, byteLength_cons]
    omega

theorem byteLength_eq_length {s : List Char} (h : ∀ c ∈ s, IsMark c) : byteLength s = s.length := by
  induction s with
  | nil => rfl
  | cons c s ih =>
    obtain ⟨hc, hs⟩ := List.forall_mem_cons.1 h
    rw [byteLength_cons, hc.utf8Size_eq_one, ih hs, List.length_cons, Nat.add_comm]

/-! ### Numerals of a width -/

theorem digit?_of_isDigit {c : Char} (h : c.isDigit) : digit? c = some (c.toNat - '0'.toNat) := by
  have hc : '0' ≤ c ∧ c ≤ '9' := by simpa [Char.isDigit, Char.le_def] using h
  exact if_pos hc

theorem digits?_append {ds : List Char} (h : ∀ c ∈ ds, c.isDigit) (acc : Nat) (rest : List Char) :
    digits? ds.length acc (ds ++ rest) = some (Nat.ofDigitChars 10 ds acc, rest) := by
  induction ds generalizing acc with
  | nil => rfl
  | cons c ds ih =>
    obtain ⟨hc, hds⟩ := List.forall_mem_cons.1 h
    rw [List.length_cons, List.cons_append, digits?, digit?_of_isDigit hc]
    simp only [ih hds]
    rw [Nat.ofDigitChars_cons, Nat.mul_comm]

theorem isDigit_of_mem_pad {w n : Nat} : ∀ c ∈ pad w n, c.isDigit := by
  intro c hc
  rw [pad, List.mem_append, Nat.toString_eq_ofList_toDigits, String.toList_ofList] at hc
  rcases hc with hc | hc
  · rw [List.eq_of_mem_replicate hc]
    decide
  · exact Nat.isDigit_of_mem_toDigits (by omega) (by omega) hc

theorem length_pad {w n : Nat} (hw : 0 < w) (h : n < Nat.pow 10 w) : (pad w n).length = w := by
  have hlength : (toString n).toList.length ≤ w := by
    rw [String.length_toList]
    exact (Nat.length_repr_le_iff hw).2 h
  rw [pad, List.length_append, List.length_replicate]
  omega

theorem ofDigitChars_pad (w n : Nat) : Nat.ofDigitChars 10 (pad w n) 0 = n := by
  rw [pad, Nat.ofDigitChars_append, Nat.ofDigitChars_replicate_zero, Nat.toString_eq_ofList_toDigits,
    String.toList_ofList, Nat.mul_zero, Nat.ofDigitChars_toDigits (by omega) (by omega)]

/-- A numeral of a width is read back, whatever stands behind it. -/
theorem digits?_pad {w n : Nat} (hw : 0 < w) (h : n < Nat.pow 10 w) (rest : List Char) :
    digits? w 0 (pad w n ++ rest) = some (n, rest) := by
  have hread := digits?_append (isDigit_of_mem_pad (w := w) (n := n)) 0 rest
  rwa [length_pad hw h, ofDigitChars_pad] at hread

theorem digits?_two {n : Nat} (h : n < 100) (rest : List Char) :
    digits? 2 0 (pad 2 n ++ rest) = some (n, rest) :=
  digits?_pad (by omega) h rest

theorem exists_cons_pad {w n : Nat} (hw : 0 < w) (h : n < Nat.pow 10 w) :
    ∃ c cs, pad w n = c :: cs ∧ c.isDigit := by
  obtain ⟨c, cs, hcs⟩ := List.exists_cons_of_length_pos (by rwa [length_pad hw h] : 0 < (pad w n).length)
  exact ⟨c, cs, hcs, isDigit_of_mem_pad c (by rw [hcs]; exact List.mem_cons_self)⟩

/-! ### Dates -/

section Dates

variable (d : Date)

theorem year_lt : d.year < Nat.pow 10 4 :=
  Nat.lt_of_le_of_lt d.year_range.2 (by decide)

theorem month_lt : d.month < 100 :=
  Nat.lt_of_le_of_lt d.month_range.2 (by omega)

theorem day_lt : d.day < 100 := by
  have hdays : ∀ y m, daysInMonth y m ≤ 31 := by
    intro y m
    rw [daysInMonth]
    split
    · split <;> omega
    · split <;> omega
  exact Nat.lt_of_le_of_lt (Nat.le_trans d.day_range.2 (hdays _ _)) (by omega)

theorem length_dateText : (dateText d).length = 10 := by
  simp [dateText, length_pad (by omega) (year_lt d), length_pad (w := 2) (by omega) (month_lt d),
    length_pad (w := 2) (by omega) (day_lt d)]

theorem isMark_of_mem_dateText : ∀ c ∈ dateText d, IsMark c := by
  have hpad : ∀ {w n}, ∀ c ∈ pad w n, IsMark c := fun c hc => isMark_of_isDigit (isDigit_of_mem_pad c hc)
  intro c hc
  simp only [dateText, List.mem_append, List.mem_cons, or_assoc] at hc
  rcases hc with hc | rfl | hc | rfl | hc
  · exact hpad c hc
  · decide
  · exact hpad c hc
  · decide
  · exact hpad c hc

theorem readDate_dateText (rest : List Char) : readDate 10 (dateText d ++ rest) = some d := by
  obtain ⟨c, cs, hc, hdigit⟩ := exists_cons_pad (w := 2) (by omega) (month_lt d)
  have hW : c ≠ 'W' := by
    rintro rfl
    exact absurd hdigit (by decide)
  have hmonth := digits?_two (month_lt d) ('-' :: (pad 2 d.day ++ rest))
  rw [hc] at hmonth
  simp only [readDate, dateText, List.append_assoc, List.cons_append, hc, Option.bind_eq_bind,
    digits?_pad (by omega) (year_lt d), Option.bind_some]
  split
  · next h => exact absurd (List.cons.inj h).1 hW
  · simp only [List.cons_append] at hmonth
    simp [hmonth, digits?_two (day_lt d), Date.ofParts?, Date.ofParts_self, Except.toOption]

end Dates

/-! ### Times of day -/

section Clocks

variable {h m s us : Nat}

theorem isMark_of_mem_clockText {seconds : Bool} :
    ∀ c ∈ clockText seconds h m s us, IsMark c ∧ startsOffset c = false := by
  have hpad : ∀ {w n}, ∀ c ∈ pad w n, IsMark c ∧ startsOffset c = false := fun c hc =>
    have hdigit := isDigit_of_mem_pad c hc
    ⟨isMark_of_isDigit hdigit, not_startsOffset_of_isDigit hdigit⟩
  have hsign : ∀ {p : Prop} [Decidable p] {c : Char} {w n}, IsMark c ∧ startsOffset c = false →
      ∀ x ∈ (if p then c :: pad w n else []), IsMark x ∧ startsOffset x = false := by
    intro p _ c w n hc x hx
    split at hx
    · rcases List.mem_cons.1 hx with rfl | hx
      · exact hc
      · exact hpad x hx
    · cases hx
  intro c hc
  simp only [clockText, List.mem_append, List.mem_cons, or_assoc] at hc
  rcases hc with hc | rfl | hc | hc | hc
  · exact hpad c hc
  · decide
  · exact hpad c hc
  · exact hsign (by decide) c hc
  · exact hsign (by decide) c hc

/-- The parts of a clock that are read one after another, each with a colon behind it. -/
theorem readParts_colon {colons : Bool} {parts : List Nat} {v left : Nat} (hv : v < 100)
    (hcolons : parts = [] ∨ colons = true) (hleft : 3 < left) (n : Nat) (rest : List Char) :
    readParts colons parts (n + 1) (pad 2 v ++ ':' :: rest) left =
      readParts true (parts ++ [v]) n rest (left - 3) := by
  have hcolon : (if (parts ++ [v]).length == 1 then true else colons) = true := by
    rcases hcolons with rfl | rfl
    · rfl
    · exact ite_self _
  simp only [readParts, digits?_two hv, headOr0, beq_self_eq_true, hcolon, Bool.and_self, if_true]
  rw [if_neg (by omega)]
  rfl

/-- The last part, if nothing but the part is left. -/
theorem readParts_last {colons : Bool} {parts : List Nat} {v left : Nat} (hv : v < 100)
    (hleft : left ≤ 3) (n : Nat) (rest : List Char) :
    readParts colons parts (n + 1) (pad 2 v ++ rest) left =
      some ⟨(parts ++ [v]).getD 0 0, (parts ++ [v]).getD 1 0, (parts ++ [v]).getD 2 0, 0,
        headOr0 rest != '\x00'⟩ := by
  simp only [readParts, digits?_two hv, if_pos hleft]

/-- A part with a fraction behind it. -/
theorem readParts_point {colons : Bool} {parts : List Nat} {v left : Nat} (hv : v < 100)
    (hleft : 3 < left) (n : Nat) (rest : List Char) :
    readParts colons parts (n + 1) (pad 2 v ++ '.' :: rest) left =
      readFraction (parts ++ [v]) rest (left - 3) := by
  have hpoint : ('.' == ':') = false := by decide
  simp only [readParts, digits?_two hv, headOr0, hpoint, Bool.and_false, beq_self_eq_true,
    Bool.true_or, if_true]
  rw [if_neg (by omega), if_neg Bool.false_ne_true]
  rfl

theorem readFraction_pad (parts : List Nat) (hus : us < Nat.pow 10 6) {rest : List Char}
    (hrest : ∀ c ∈ rest.head?, digit? c = none) :
    readFraction parts (pad 6 us ++ rest) 6 =
      some ⟨parts.getD 0 0, parts.getD 1 0, parts.getD 2 0, us, headOr0 rest != '\x00'⟩ := by
  have hdrop : rest.dropWhile (fun c => (digit? c).isSome) = rest := by
    cases rest with
    | nil => rfl
    | cons c rest => rw [List.dropWhile_cons_of_neg (by simp [hrest c rfl])]
  simp [readFraction, digits?_pad (w := 6) (by omega) hus, hdrop]

/-- A clock is read to its end: hours and minutes, seconds if they are written, a fraction if it is
not zero. -/
theorem readClock_clockText (seconds : Bool) (hh : h < 100) (hm : m < 100) (hs : s < 100)
    (hus : us < Nat.pow 10 6) (rest : List Char) (hrest : ∀ c ∈ rest.head?, digit? c = none) :
    readClock (clockText seconds h m s us ++ rest) (clockText seconds h m s us).length =
      some ⟨h, m, s, us, headOr0 rest != '\x00'⟩ := by
  have htwo : ∀ {n}, n < 100 → (pad 2 n).length = 2 := fun hn => length_pad (by omega) hn
  have hsix : (pad 6 us).length = 6 := length_pad (by omega) hus
  rw [readClock]
  by_cases hfraction : us = 0
  · subst hfraction
    by_cases hseconds : (seconds || s != 0) = true
    · have htext : clockText seconds h m s 0 = pad 2 h ++ ':' :: (pad 2 m ++ ':' :: pad 2 s) := by
        simp [clockText, hseconds]
      simp only [htext, List.length_append, List.length_cons, htwo hh, htwo hm, htwo hs,
        List.append_assoc, List.cons_append]
      rw [readParts_colon hh (Or.inl rfl) (by omega), readParts_colon hm (Or.inr rfl) (by omega),
        readParts_last hs (by omega)]
      rfl
    · have hzero : s = 0 := by
        rw [Bool.or_eq_true, not_or] at hseconds
        simpa using hseconds.2
      have htext : clockText seconds h m s 0 = pad 2 h ++ ':' :: pad 2 m := by
        simp [clockText, hseconds]
      simp only [htext, List.length_append, List.length_cons, htwo hh, htwo hm, List.append_assoc,
        List.cons_append]
      rw [readParts_colon hh (Or.inl rfl) (by omega), readParts_last hm (by omega), hzero]
      rfl
  · have htext : clockText seconds h m s us =
        pad 2 h ++ ':' :: (pad 2 m ++ ':' :: (pad 2 s ++ '.' :: pad 6 us)) := by
      simp [clockText, hfraction]
    simp only [htext, List.length_append, List.length_cons, htwo hh, htwo hm, htwo hs, hsix,
      List.append_assoc, List.cons_append]
    rw [readParts_colon hh (Or.inl rfl) (by omega), readParts_colon hm (Or.inr rfl) (by omega),
      readParts_point hs (by omega)]
    exact readFraction_pad _ hus hrest

end Clocks

/-! ### Times with an offset -/

/-- The offset that is read where `o` is written. -/
def heardOffset (o : Int) : Int :=
  if o.natAbs < 1000000 then 0 else o

theorem heardOffset_eq_self_iff {o : Int} : heardOffset o = o ↔ o = 0 ∨ 1000000 ≤ o.natAbs := by
  unfold heardOffset
  split <;> omega

theorem natAbs_heardOffset_le (o : Int) : (heardOffset o).natAbs ≤ o.natAbs := by
  unfold heardOffset
  split <;> omega

section Times

variable {h m s us : Nat}

/-- What is read of a time before its offset: the clock, and whether the text goes on. -/
theorem readClock_zone (hh : h < 24) (hm : m < 60) (hs : s < 60) (hus : us < 1000000)
    (zone : List Char) (hzone : ∀ c ∈ zone.head?, startsOffset c = true) :
    let text := clockText true h m s us ++ zone
    text.dropWhile (fun c => !startsOffset c) = zone ∧
      readClock text (byteLength (text.takeWhile fun c => !startsOffset c)) =
        some ⟨h, m, s, us, headOr0 zone != '\x00'⟩ := by
  have hclock : ∀ c ∈ clockText true h m s us, (!startsOffset c) = true := fun c hc => by
    rw [(isMark_of_mem_clockText c hc).2]
    rfl
  have hend : ∀ c ∈ zone.head?, (!startsOffset c) = false := fun c hc => by
    rw [hzone c hc]
    rfl
  have hdigit : ∀ c ∈ zone.head?, digit? c = none := by
    intro c hc
    have hstart := hzone c hc
    simp only [startsOffset, Bool.or_eq_true, beq_iff_eq] at hstart
    rcases hstart with (rfl | rfl) | rfl <;> rfl
  refine ⟨Text.dropWhile_word hclock hend, ?_⟩
  rw [Text.takeWhile_word hclock hend,
    byteLength_eq_length fun c hc => (isMark_of_mem_clockText c hc).1]
  exact readClock_clockText true (by omega) (by omega) (by omega) hus zone hdigit

theorem readTime_naive (hh : h < 24) (hm : m < 60) (hs : s < 60) (hus : us < 1000000) :
    readTime (clockText true h m s us) = some (⟨h, m, s, us, false⟩, none) := by
  obtain ⟨hzone, hclock⟩ := readClock_zone hh hm hs hus [] (by simp)
  rw [List.append_nil] at hzone hclock
  simp only [readTime, hzone, hclock]
  rfl

theorem readTime_zulu (hh : h < 24) (hm : m < 60) (hs : s < 60) (hus : us < 1000000) :
    readTime (clockText true h m s us ++ ['Z']) = some (⟨h, m, s, us, true⟩, some 0) := by
  obtain ⟨hzone, hclock⟩ := readClock_zone hh hm hs hus ['Z'] (by simp [startsOffset])
  simp only [readTime, hzone, hclock]
  rfl

/-- The hours, minutes, seconds and the fraction that an offset is written with. -/
theorem readClock_offset {n : Nat} (hn : n < DateTime.dayLength) :
    let second := n / 1000000
    let text := clockText false (second / 3600) (second / 60 % 60) (second % 60) (n % 1000000)
    readClock text (byteLength text) =
      some ⟨second / 3600, second / 60 % 60, second % 60, n % 1000000, false⟩ := by
  intro second text
  unfold DateTime.dayLength at hn
  have hhour : second / 3600 < 100 := by omega
  have hminute : second / 60 % 60 < 100 := by omega
  have hsecond : second % 60 < 100 := by omega
  have hfraction : n % 1000000 < Nat.pow 10 6 := Nat.mod_lt _ (by decide)
  have hclock := readClock_clockText false hhour hminute hsecond hfraction [] (by simp)
  rw [List.append_nil] at hclock
  rw [byteLength_eq_length fun c hc => (isMark_of_mem_clockText c hc).1]
  exact hclock

/-- An offset behind its sign. -/
def offsetOf (sign : Char) (o : ClockReading) : Int :=
  let whole := o.hour * 3600 + o.minute * 60 + o.second
  let size : Int := if whole == 0 then 0 else (whole * 1000000 + o.microsecond : Nat)
  if sign == '-' then -size else size

theorem readTime_signed (hh : h < 24) (hm : m < 60) (hs : s < 60) (hus : us < 1000000)
    {sign : Char} (hsign : sign = '+' ∨ sign = '-') {r : List Char} {o : ClockReading}
    (hread : readClock r (byteLength r) = some o) (hrest : o.rest = false) :
    readTime (clockText true h m s us ++ sign :: r) =
      some (⟨h, m, s, us, true⟩, some (offsetOf sign o)) := by
  obtain ⟨hzone, hclock⟩ := readClock_zone hh hm hs hus (sign :: r) (by
    rcases hsign with rfl | rfl <;> simp [startsOffset])
  simp only [readTime, hzone, hclock, Option.bind_eq_bind, Option.bind_some]
  rcases hsign with rfl | rfl
  · change (readClock r (byteLength r)).bind _ = _
    rw [hread, Option.bind_some, hrest]
    rfl
  · change (readClock r (byteLength r)).bind _ = _
    rw [hread, Option.bind_some, hrest]
    rfl

/-- The parts of an offset make up the offset, but for one of less than a second. -/
theorem offsetOf_parts (o : Int) :
    let second := o.natAbs / 1000000
    offsetOf (if o < 0 then '-' else '+')
        ⟨second / 3600, second / 60 % 60, second % 60, o.natAbs % 1000000, false⟩ = heardOffset o := by
  intro second
  have hwhole : second / 3600 * 3600 + second / 60 % 60 * 60 + second % 60 = second := by omega
  have hsign : ((if o < 0 then '-' else '+') == '-') = decide (o < 0) := by
    split <;> simp [*]
  simp only [offsetOf, hwhole, hsign, heardOffset, second, beq_iff_eq, decide_eq_true_eq]
  split <;> split <;> split <;> omega

theorem readTime_offset (hh : h < 24) (hm : m < 60) (hs : s < 60) (hus : us < 1000000) {o : Int}
    (ho : o.natAbs < DateTime.dayLength) :
    readTime (clockText true h m s us ++ offsetText o) =
      some (⟨h, m, s, us, true⟩, some (heardOffset o)) := by
  rw [← offsetOf_parts o]
  refine readTime_signed hh hm hs hus ?_ (readClock_offset ho) rfl
  split <;> simp

end Times

/-! ### Dates with a time of day -/

section DateTimes

variable {d : Date}

theorem getElem?_dateText (d : Date) (rest : List Char) :
    (dateText d ++ rest)[4]? = some '-' ∧ ∃ c, (dateText d ++ rest)[5]? = some c ∧ c.isDigit := by
  obtain ⟨c, cs, hc, hdigit⟩ := exists_cons_pad (w := 2) (by omega) (month_lt d)
  have hyear : (pad 4 d.year).length = 4 := length_pad (by omega) (year_lt d)
  refine ⟨?_, c, ?_, hdigit⟩ <;>
    rw [dateText, hc, List.append_assoc, List.append_assoc, List.getElem?_append_right (by omega), hyear] <;>
    rfl

theorem separatorAt_dateText {bytes : Nat} (hbytes : bytes ≠ 7) (rest : List Char) :
    separatorAt bytes (dateText d ++ rest) = some 10 := by
  obtain ⟨hfour, c, hfive, hdigit⟩ := getElem?_dateText d rest
  have hW : c ≠ 'W' := by
    rintro rfl
    exact absurd hdigit (by decide)
  simp [separatorAt, hbytes, hfour, hfive, hW]

/-- A date and a time of day are read apart, whatever character stands between them. -/
theorem readDateTime_append {separator : Char} {tail : List Char} {r : ClockReading} {o : Option Int}
    (htail : readTime tail = some (r, o)) :
    readDateTime (dateText d ++ separator :: tail) =
      (DateTime.ofParts d r.hour r.minute r.second r.microsecond o).toOption := by
  have hlength : 10 < byteLength (dateText d ++ separator :: tail) := by
    refine Nat.lt_of_lt_of_le ?_ (length_le_byteLength _)
    rw [List.length_append, length_dateText, List.length_cons]
    omega
  have hseven : byteLength (dateText d ++ separator :: tail) ≠ 7 := by omega
  have hdrop : (dateText d ++ separator :: tail).drop 11 = tail := by
    rw [List.drop_append, length_dateText,
      List.drop_eq_nil_of_le (by rw [length_dateText]; omega), List.nil_append]
    rfl
  simp only [readDateTime, separatorAt_dateText hseven, readDate_dateText, Option.bind_eq_bind,
    Option.bind_some]
  rw [if_neg (by omega), if_neg (by omega)]
  simp only [hdrop, htail, Option.bind_some]

/-- The time that is read where `t` is written. -/
def heard (t : DateTime) : DateTime :=
  { t with
    offset := t.offset.map heardOffset
    offset_lt := by
      intro p hp
      obtain ⟨o, ho, rfl⟩ := Option.map_eq_some_iff.1 hp
      exact Nat.lt_of_le_of_lt (natAbs_heardOffset_le o) (t.offset_lt o ho) }

theorem heard_eq_self_iff {t : DateTime} :
    heard t = t ↔ ∀ o ∈ t.offset, o = 0 ∨ 1000000 ≤ o.natAbs := by
  obtain ⟨date, h, m, s, us, offset⟩ := t
  simp only [heard, DateTime.mk.injEq, true_and]
  cases offset with
  | none => simp
  | some o => simpa using heardOffset_eq_self_iff

/-- The time without its offset. -/
def naive (t : DateTime) : DateTime :=
  { t with offset := none, offset_lt := by simp }

theorem readDateTime_dateTimeText (separator : Char) (t : DateTime) :
    readDateTime (dateTimeText separator t) = some (heard t) := by
  have hself := congrArg Except.toOption (DateTime.ofParts_self (heard t))
  cases ho : t.offset with
  | none =>
    have htail := readTime_naive t.hour_lt t.minute_lt t.second_lt t.microsecond_lt
    have hoffset : (heard t).offset = none := congrArg (Option.map heardOffset) ho
    rw [hoffset] at hself
    rw [dateTimeText, ho, List.append_nil, readDateTime_append htail]
    exact hself
  | some o =>
    have htail := readTime_offset t.hour_lt t.minute_lt t.second_lt t.microsecond_lt
      (t.offset_lt o ho)
    have hoffset : (heard t).offset = some (heardOffset o) := congrArg (Option.map heardOffset) ho
    rw [hoffset] at hself
    rw [dateTimeText, ho, List.append_assoc, List.cons_append, readDateTime_append htail]
    exact hself

/-- A zero offset may be written as `Z`. -/
theorem readDateTime_zulu (separator : Char) {t : DateTime} (ho : t.offset = some 0) :
    readDateTime (dateTimeText separator (naive t) ++ ['Z']) = some t := by
  have hself := congrArg Except.toOption (DateTime.ofParts_self t)
  have htail := readTime_zulu t.hour_lt t.minute_lt t.second_lt t.microsecond_lt
  rw [ho] at hself
  rw [dateTimeText, naive, List.append_nil, List.append_assoc, List.cons_append,
    readDateTime_append htail]
  exact hself

end DateTimes

/-! ### The whole text -/

theorem isMark_of_mem_dateTimeText (t : DateTime) : ∀ c ∈ dateTimeText 'T' t, IsMark c := by
  have hclock : ∀ {b h m s us}, ∀ c ∈ clockText b h m s us, IsMark c := fun c hc =>
    (isMark_of_mem_clockText c hc).1
  intro c hc
  simp only [dateTimeText, List.mem_append, List.mem_cons, or_assoc] at hc
  rcases hc with hc | rfl | hc | hc
  · exact isMark_of_mem_dateText t.date c hc
  · decide
  · exact hclock c hc
  · cases ho : t.offset with
    | none => simp [ho] at hc
    | some o =>
      simp only [ho, offsetText, List.mem_cons] at hc
      rcases hc with rfl | hc
      · split <;> decide
      · exact hclock c hc

theorem lt_length_dateTimeText (separator : Char) (t : DateTime) :
    10 < (dateTimeText separator t).length := by
  simp only [dateTimeText, List.length_append, List.length_cons, length_dateText]
  omega

theorem readDateOnly_dateText (d : Date) : readDateOnly (dateText d) = some d := by
  have hread := readDate_dateText d []
  rw [List.append_nil] at hread
  rw [readDateOnly, byteLength_eq_length (isMark_of_mem_dateText d), length_dateText]
  exact hread

end Iso

/-! ### Among blanks -/

/-- Blanks around a text without blanks are dropped, and nothing else is. -/
theorem Text.trimList_append {before s after : List Char} (hbefore : ∀ c ∈ before, isBlank c = true)
    (hafter : ∀ c ∈ after, isBlank c = true) (hne : s ≠ []) (hs : ∀ c ∈ s, isBlank c = false) :
    trimList (before ++ s ++ after) = s := by
  have hhead : ∀ c ∈ (s ++ after).head?, isBlank c = false := by
    rw [List.head?_append_of_ne_nil s hne]
    exact fun c hc => hs c (List.mem_of_mem_head? hc)
  have hlast : ∀ c ∈ s.reverse.head?, isBlank c = false := fun c hc =>
    hs c (List.mem_reverse.1 (List.mem_of_mem_head? hc))
  have hreverse : ∀ c ∈ after.reverse, isBlank c = true := fun c hc =>
    hafter c (List.mem_reverse.1 hc)
  rw [trimList, List.append_assoc, dropWhile_word hbefore hhead, List.reverse_append,
    dropWhile_word hreverse hlast, List.reverse_reverse]

namespace Moment

section Around

variable {before after : String} (hbefore : Text.isAllBlank before = true)
  (hafter : Text.isAllBlank after = true)

include hbefore hafter

theorem trimList_around {s : List Char} (hne : s ≠ []) (hs : ∀ c ∈ s, Iso.IsMark c) :
    Text.trimList (before ++ String.ofList s ++ after).toList = s := by
  rw [String.toList_append, String.toList_append, String.toList_ofList]
  exact Text.trimList_append (List.all_eq_true.1 hbefore) (List.all_eq_true.1 hafter) hne
    fun c hc => (hs c hc).isBlank_eq_false

theorem ofValue?_date (d : Date) :
    ofValue? (.text (before ++ Iso.showDate d ++ after)) = some (.date d) := by
  have hlength := Iso.length_dateText d
  have hne : Iso.dateText d ≠ [] := List.ne_nil_of_length_pos (by omega)
  simp only [ofValue?, ofList?, Iso.showDate,
    trimList_around hbefore hafter hne (Iso.isMark_of_mem_dateText d), hlength]
  rw [Iso.readDateOnly_dateText]
  rfl

theorem ofValue?_time {s : List Char} {t : DateTime} (hlength : 10 < s.length)
    (hs : ∀ c ∈ s, Iso.IsMark c) (hread : Iso.readDateTime s = some t) :
    ofValue? (.text (before ++ String.ofList s ++ after)) = some (.time t) := by
  have hne : s ≠ [] := List.ne_nil_of_length_pos (by omega)
  have hten : (s.length == dateLength) = false := by
    rw [beq_eq_false_iff_ne, dateLength]
    omega
  simp only [ofValue?, ofList?, trimList_around hbefore hafter hne hs, hten, hread]
  rfl

theorem ofValue?_showDateTime (t : DateTime) :
    ofValue? (.text (before ++ Iso.showDateTime t ++ after)) = some (.time (Iso.heard t)) :=
  ofValue?_time hbefore hafter (Iso.lt_length_dateTimeText 'T' t) (Iso.isMark_of_mem_dateTimeText t)
    (Iso.readDateTime_dateTimeText 'T' t)

end Around

/-- Midnight of a leap day, ahead of universal time by as many microseconds. -/
def leapMidnight (ahead : Int) (h : ahead.natAbs < DateTime.dayLength) : DateTime where
  date := ⟨2020, 2, 29, by decide, by decide, by decide⟩
  hour := 0
  minute := 0
  second := 0
  microsecond := 0
  offset := some ahead
  hour_lt := by decide
  minute_lt := by decide
  second_lt := by decide
  microsecond_lt := by decide
  offset_lt := by
    rintro o ⟨⟩
    exact h

end Moment

end SchemaDecl
