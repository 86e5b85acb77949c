import SchemaDecl.Json.Reader
import SchemaDecl.Proofs.Outcomes

/-! Where reading JSON fails for the number of digits. Every part of a text is read from an end of the
text, so the numeral that has too many digits stands in it. -/

namespace SchemaDecl.Json

/-- So many digits stand one after another in the text, more than a number may have. -/
def LongNumeral (s : List Char) (n : Nat) : Prop :=
  Numeral.digitLimit < n ∧ ∃ ds, ds.length = n ∧ (∀ c ∈ ds, isDigit c) ∧ ds <:+: s

/-- What the text must hold for reading to stop. -/
def Reason (s : List Char) : Stop → Prop
  | .at _ _ => True
  | .tooManyDigits n => LongNumeral s n

theorem Reason.mono {s t : List Char} (h : s <:+ t) (e : Stop) (he : Reason s e) : Reason t e := by
  cases e with
  | «at» problem left => trivial
  | tooManyDigits n =>
    obtain ⟨hn, ds, hlength, hdigits, hstands⟩ := he
    exact ⟨hn, ds, hlength, hdigits, hstands.trans h.isInfix⟩

/-- What was read leaves an end of the text, or there is a reason in it to stop. -/
def Consumes {α : Type} (s : List Char) (r : Except Stop (α × List Char)) : Prop :=
  Settles (Reason s) (fun p => p.2 <:+ s) r

section Consumes

variable {α β : Type} {s t : List Char} {r : Except Stop (α × List Char)}

theorem consumes_at {problem : Problem} {left : Nat} :
    Consumes s (.error (.at problem left) : Except Stop (α × List Char)) :=
  .error trivial

theorem Consumes.mono (h : Consumes s r) (hs : s <:+ t) : Consumes t r :=
  h.imp (Reason.mono hs) fun _ hp => hp.trans hs

theorem Consumes.bind {f : α × List Char → Except Stop (β × List Char)} (h : Consumes s r)
    (hf : ∀ a t, t <:+ s → Consumes t (f (a, t))) : Consumes s (r >>= f) :=
  Settles.bind h fun p hp => (hf p.1 p.2 hp).mono hp

end Consumes

/-! ### Ends of a text -/

theorem skipBlanks_suffix (s : List Char) : skipBlanks s <:+ s := by
  induction s with
  | nil => exact List.suffix_rfl
  | cons c s ih =>
    rw [skipBlanks]
    split
    · exact ih.trans (List.suffix_cons c s)
    · exact List.suffix_rfl

/-- What follows a character behind blanks. -/
theorem suffix_of_skipBlanks {s r : List Char} {c : Char} (h : skipBlanks s = c :: r) : r <:+ s :=
  (List.suffix_cons c r).trans (h ▸ skipBlanks_suffix s)

theorem unit?_suffix {s r : List Char} {n : Nat} (h : unit? s = some (n, r)) : r <:+ s := by
  unfold unit? at h
  split at h
  next a b c d s =>
    simp only [Option.bind_eq_bind, Option.bind_eq_some_iff, Option.some.injEq, Prod.mk.injEq] at h
    obtain ⟨_, -, _, -, _, -, _, -, -, rfl⟩ := h
    exact ⟨[a, b, c, d], rfl⟩
  next => cases h

theorem consumes_readUnit (s : List Char) : Consumes s (readUnit s) := by
  unfold readUnit
  split
  next => exact consumes_at
  next => exact consumes_at
  next n r _ hunit =>
    have hr : r <:+ s := unit?_suffix hunit
    split
    next r₂ =>
      split
      · split
        next => exact consumes_at
        next low r₃ hlow =>
          split
          · exact .ok ((unit?_suffix hlow).trans (List.IsSuffix.trans ⟨['\\', 'u'], rfl⟩ hr))
          · exact .ok hr
      · exact .ok hr
    next => exact .ok hr

theorem consumes_readText (opening fuel : Nat) (done s : List Char) :
    Consumes s (readText opening fuel done s) := by
  induction fuel generalizing done s with
  | zero => exact consumes_at
  | succ fuel ih =>
    rw [readText.eq_def]
    dsimp only
    split
    next => exact consumes_at
    next r => exact .ok (List.suffix_cons _ r)
    next r =>
      split
      next => exact consumes_at
      next r =>
        split
        next e hunit =>
          have he := hunit ▸ consumes_readUnit r
          exact .error (he.of_error.mono ⟨['\\', 'u'], rfl⟩)
        next c r' hunit =>
          have hr : r' <:+ r := (hunit ▸ consumes_readUnit r).of_ok
          exact (ih _ _).mono (hr.trans ⟨['\\', 'u'], rfl⟩)
      next e r _ =>
        split
        next => exact (ih _ _).mono ⟨['\\', e], rfl⟩
        next => exact consumes_at
    next c r _ _ =>
      split
      · exact consumes_at
      · exact (ih _ _).mono (List.suffix_cons c r)

/-! ### Numbers -/

theorem splitDigits_suffix (s : List Char) : (splitDigits s).2 <:+ s :=
  List.dropWhile_suffix _

theorem readFraction_suffix (s : List Char) : (readFraction s).2 <:+ s := by
  unfold readFraction
  split
  next r =>
    split
    · exact List.suffix_rfl
    · exact (splitDigits_suffix r).trans (List.suffix_cons _ r)
  next => exact List.suffix_rfl

theorem readExponent_suffix (s : List Char) : (readExponent s).2 <:+ s := by
  unfold readExponent
  split
  next c r =>
    split
    · have hdigits : ∀ (n : Int) {r' : List Char}, r' <:+ c :: r →
          ((if (splitDigits r').1.isEmpty then (none, c :: r) else (some n, (splitDigits r').2)) :
            Option Int × List Char).2 <:+ c :: r := by
        intro n r' hr
        split
        · exact List.suffix_rfl
        · exact (splitDigits_suffix r').trans hr
      dsimp only
      split
      · exact hdigits _ ⟨[c, '-'], rfl⟩
      · exact hdigits _ ⟨[c, '+'], rfl⟩
      · exact hdigits _ (List.suffix_cons c r)
    · exact List.suffix_rfl
  next => exact List.suffix_rfl

theorem readWhole_suffix (s : List Char) : (readWhole s).2 <:+ s := by
  unfold readWhole
  split
  next r => exact List.suffix_cons _ r
  next => exact splitDigits_suffix _

theorem readWhole_prefix (s : List Char) : (readWhole s).1 <+: s ∧ ∀ c ∈ (readWhole s).1, isDigit c := by
  unfold readWhole
  split
  next r => exact ⟨⟨r, rfl⟩, by simp [isDigit]⟩
  next => exact ⟨List.takeWhile_prefix _, List.all_eq_true.1 List.all_takeWhile⟩

theorem consumes_readNumber (negative : Bool) (s : List Char) :
    ∀ r ∈ readNumber negative s, Consumes s r := by
  intro r hr
  unfold readNumber at hr
  dsimp only at hr
  have hwhole := readWhole_suffix s
  have hrest := (readExponent_suffix (readFraction (readWhole s).2).2).trans
    ((readFraction_suffix (readWhole s).2).trans hwhole)
  split at hr
  · cases hr
  split at hr
  · split at hr
    next hlong =>
      cases hr
      obtain ⟨hstart, hdigits⟩ := readWhole_prefix s
      exact .error ⟨hlong, _, rfl, hdigits, hstart.isInfix⟩
    next =>
      cases hr
      exact .ok hrest
  · cases hr
    exact .ok hrest

/-! ### Values -/

theorem word?_suffix {w s r : List Char} (h : word? w s = some r) : r <:+ s := by
  induction w generalizing s with
  | nil =>
    cases h
    exact List.suffix_rfl
  | cons c w ih =>
    cases s with
    | nil => cases h
    | cons d s =>
      rw [word?] at h
      split at h
      · exact (ih h).trans (List.suffix_cons d s)
      · cases h

theorem consumes_readScalar (s : List Char) : Consumes s (readScalar s) := by
  unfold readScalar
  split
  next found hfound =>
    obtain ⟨⟨w, v⟩, -, hw⟩ := List.exists_of_findSome?_eq_some hfound
    obtain ⟨r, hr, rfl⟩ := Option.map_eq_some_iff.1 hw
    exact .ok (word?_suffix hr)
  next =>
    dsimp only
    have hgetD : ∀ {t : List Char} {n : Option (Except Stop (Value × List Char))} {left : Nat},
        (∀ r ∈ n, Consumes t r) → Consumes t (n.getD (.error (.at .expectedValue left))) := by
      intro t n left h
      cases n with
      | none => exact consumes_at
      | some r => exact h r rfl
    split
    next r _ =>
      exact hgetD fun n hn => (consumes_readNumber true r n hn).mono (List.suffix_cons _ r)
    next => exact hgetD (consumes_readNumber false s)

/-- So it is for whatever is read with some fuel. -/
structure Consuming (fuel : Nat) : Prop where
  value : ∀ s, Consumes s (readValue fuel s)
  items : ∀ done s, Consumes s (readItems fuel done s)
  entries : ∀ done s, Consumes s (readEntries fuel done s)

theorem Consuming.succ_value {fuel : Nat} (hf : Consuming fuel) (s : List Char) :
    Consumes s (readValue (fuel + 1) s) := by
  rw [readValue.eq_def]
  dsimp only
  split
  next r =>
    refine Consumes.mono ?_ (List.suffix_cons _ r)
    exact (consumes_readText _ _ [] r).bind fun t r' _ => .ok List.suffix_rfl
  next r =>
    refine Consumes.mono ?_ (List.suffix_cons _ r)
    split
    next r' hr => exact .ok (suffix_of_skipBlanks hr)
    next =>
      refine Consumes.mono ?_ (skipBlanks_suffix r)
      exact (hf.items [] _).bind fun items r' _ => .ok List.suffix_rfl
  next r =>
    refine Consumes.mono ?_ (List.suffix_cons _ r)
    split
    next r' hr => exact .ok (suffix_of_skipBlanks hr)
    next =>
      refine Consumes.mono ?_ (skipBlanks_suffix r)
      exact (hf.entries [] _).bind fun entries r' _ => .ok List.suffix_rfl
  next => exact consumes_readScalar s

theorem Consuming.succ_items {fuel : Nat} (hf : Consuming fuel) (done : List Value) (s : List Char) :
    Consumes s (readItems (fuel + 1) done s) := by
  rw [readItems.eq_def]
  refine (hf.value s).bind fun v r _ => ?_
  dsimp only
  split
  next r' hr => exact .ok (suffix_of_skipBlanks hr)
  next r' hr => exact (hf.items _ _).mono ((skipBlanks_suffix r').trans (suffix_of_skipBlanks hr))
  next => exact consumes_at

theorem Consuming.succ_entries {fuel : Nat} (hf : Consuming fuel) (done : List (Value × Value))
    (s : List Char) : Consumes s (readEntries (fuel + 1) done s) := by
  rw [readEntries.eq_def]
  dsimp only
  split
  next r =>
    refine Consumes.mono ?_ (List.suffix_cons _ r)
    refine (consumes_readText _ _ [] r).bind fun k r₁ _ => ?_
    dsimp only
    split
    next r₂ h₁ =>
      refine Consumes.mono ?_ ((skipBlanks_suffix r₂).trans (suffix_of_skipBlanks h₁))
      refine (hf.value _).bind fun v r₃ _ => ?_
      dsimp only
      split
      next r₄ h₃ => exact .ok (suffix_of_skipBlanks h₃)
      next r₄ h₃ =>
        exact (hf.entries _ _).mono ((skipBlanks_suffix r₄).trans (suffix_of_skipBlanks h₃))
      next => exact consumes_at
    next => exact consumes_at
  next => exact consumes_at

theorem consuming (fuel : Nat) : Consuming fuel := by
  induction fuel with
  | zero => exact ⟨fun _ => consumes_at, fun _ _ => consumes_at, fun _ _ => consumes_at⟩
  | succ fuel ih => exact ⟨ih.succ_value, ih.succ_items, ih.succ_entries⟩

/-- Whatever a text fails for to be a value, it holds the reason. -/
theorem settles_readChars (cs : List Char) : Settles (Reason cs) (fun _ => True) (readChars cs) := by
  unfold readChars
  split
  · exact .error trivial
  · refine Settles.bind (((consuming _).value _).mono (skipBlanks_suffix _)) fun ⟨v, r⟩ _ => ?_
    dsimp only
    split
    · exact .ok trivial
    · exact .error trivial

/-- Reading fails for the number of digits only where so many of them stand in the text. -/
theorem longNumeral_of_read {s : String} {n : Nat} (h : read s = .error (.tooManyDigits n)) :
    LongNumeral s.toList n := by
  have hreason := settles_readChars s.toList
  unfold read at h
  split at h
  next => cases h
  next e he =>
    rw [he] at hreason
    cases e with
    | «at» problem left => cases h
    | tooManyDigits m =>
      cases h
      exact hreason.of_error

end SchemaDecl.Json
