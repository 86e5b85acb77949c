import SchemaDecl.Proofs.Json.Numerals
import SchemaDecl.Yaml.Layout

/-! Where reading the tokens of YAML breaks off. It moves from place to place towards the end of the text;
whatever it breaks off for that is no breach of the grammar stands at one of these places: an escape for a
character beyond the last one, or a version with too many digits. -/

namespace SchemaDecl.Yaml

open Json (LongNumeral)

/-! ### Moving -/

/-- The second place lies behind the first one, or is the same. -/
def Cursor.Behind (c d : Cursor) : Prop :=
  d.rest <:+ c.rest

namespace Cursor

variable {c d e : Cursor}

theorem Behind.refl (c : Cursor) : c.Behind c :=
  List.suffix_rfl

theorem Behind.trans (h : c.Behind d) (h' : d.Behind e) : c.Behind e :=
  List.IsSuffix.trans h' h

theorem behind_advance (c : Cursor) : c.Behind c.advance := by
  unfold Behind advance
  split
  next h => exact List.suffix_rfl
  next x r h =>
    rw [h]
    split <;> exact List.suffix_cons x r

theorem behind_skip (n : Nat) (c : Cursor) : c.Behind (c.skip n) := by
  induction n generalizing c with
  | zero => exact Behind.refl c
  | succ n ih => exact (behind_advance c).trans (ih c.advance)

theorem behind_span (p : Char → Bool) (c : Cursor) : c.Behind (c.span p).2 :=
  behind_skip _ c

theorem behind_skipSpaces (c : Cursor) : c.Behind c.skipSpaces :=
  behind_span _ c

theorem behind_skipBlanks (c : Cursor) : c.Behind c.skipBlanks :=
  behind_span _ c

theorem behind_skipLine (c : Cursor) : c.Behind c.skipLine :=
  behind_span _ c

theorem rest_of_peek {x : Char} (h : c.peek = x) (hx : x ≠ '\x00') : c.rest = x :: c.advance.rest := by
  unfold peek peekAt at h
  unfold advance
  cases hc : c.rest with
  | nil =>
    rw [hc] at h
    exact absurd h.symm hx
  | cons y r =>
    rw [hc] at h
    obtain rfl : y = x := h
    dsimp only
    split <;> rfl

theorem behind_lineBreak (c : Cursor) : c.Behind c.lineBreak.2 := by
  unfold lineBreak
  split
  · exact behind_skip 2 c
  · split
    · exact behind_advance c
    · split
      · exact behind_advance c
      · exact Behind.refl c
  · exact Behind.refl c

theorem behind_of_lineBreak {b : Option Char} (h : c.lineBreak = (b, d)) : c.Behind d := by
  have hbreak := c.behind_lineBreak
  rw [h] at hbreak
  exact hbreak

/-- Blanks and a comment behind them. -/
theorem behind_skipComment (c : Cursor) :
    c.Behind (if c.skipSpaces.peek == '#' then c.skipSpaces.skipLine else c.skipSpaces) := by
  split
  · exact c.behind_skipSpaces.trans (behind_skipLine _)
  · exact c.behind_skipSpaces

end Cursor

/-! ### Reasons to break off -/

/-- The flaw of an escape for a character that there is not. -/
def codeFlaw (n : Nat) : Flaw :=
  if 0x7fffffff < n then .overflow else .badValue "chr() arg not in range(0x110000)"

/-- What the text must hold for its tokens to break off. -/
inductive BreakOff (s : List Char) : Flaw → Prop
  | malformed : BreakOff s .malformed
  | version {n : Nat} (h : LongNumeral s n) : BreakOff s (.badValue (Numeral.tooManyDigitsToRead n))
  | escape {digits : List Char} {n : Nat} (hlength : digits.length = 8)
      (hstands : '\\' :: 'U' :: digits <:+: s) (hn : hexDigits? 8 0 digits = some n)
      (hlast : 0x10ffff < n) : BreakOff s (codeFlaw n)

theorem BreakOff.mono {s t : List Char} (h : s <:+ t) (f : Flaw) (hf : BreakOff s f) : BreakOff t f := by
  cases hf with
  | malformed => exact .malformed
  | version hlong =>
    obtain ⟨hn, ds, hlength, hdigits, hstands⟩ := hlong
    exact .version ⟨hn, ds, hlength, hdigits, hstands.trans h.isInfix⟩
  | escape hlength hstands hn hlast => exact .escape hlength (hstands.trans h.isInfix) hn hlast

/-- A token that reading did not break off for. -/
def Token.isWhole : Token → Bool
  | .broken _ => false
  | _ => true

/-- What was scanned is of one kind and leaves a place behind the first one, or there is a reason to break
off. -/
def ScansTo {α : Type} (P : α → Prop) (c : Cursor) (r : Except Flaw (α × Cursor)) : Prop :=
  Settles (BreakOff c.rest) (fun p => P p.1 ∧ c.Behind p.2) r

/-- The same where it does not matter what was scanned. -/
abbrev Scans {α : Type} (c : Cursor) (r : Except Flaw (α × Cursor)) : Prop :=
  ScansTo (fun _ => True) c r

section Scans

variable {α β : Type} {P : α → Prop} {Q : β → Prop} {c d : Cursor} {r : Except Flaw (α × Cursor)}

theorem scans_malformed : ScansTo P c (.error .malformed) :=
  .error .malformed

theorem scans_ok {p : α × Cursor} (h : c.Behind p.2) : Scans c (.ok p) :=
  .ok ⟨trivial, h⟩

theorem scans_here (a : α) (c : Cursor) : Scans c (.ok (a, c)) :=
  scans_ok (Cursor.Behind.refl c)

theorem ScansTo.mono (h : ScansTo P d r) (hd : c.Behind d) : ScansTo P c r :=
  h.imp (BreakOff.mono hd) fun _ hp => ⟨hp.1, hd.trans hp.2⟩

theorem Scans.bind {f : α × Cursor → Except Flaw (β × Cursor)} (h : Scans c r)
    (hf : ∀ a d, c.Behind d → ScansTo Q d (f (a, d))) : ScansTo Q c (r >>= f) :=
  Settles.bind h fun p hp => (hf p.1 p.2 hp.2).mono hp.2

/-- Only where a word ends may the text stop. -/
theorem scans_endsWord {a : α} (ha : P a) (c : Cursor) :
    ScansTo P c (if endsWord c.peek then .ok (a, c) else .error .malformed) := by
  split
  · exact .ok ⟨ha, Cursor.Behind.refl c⟩
  · exact scans_malformed

end Scans

/-! ### Tags -/

theorem scans_escapedBytes (fuel : Nat) (bytes : List UInt8) (c : Cursor) :
    Scans c (escapedBytes fuel bytes c) := by
  induction fuel generalizing bytes c with
  | zero => exact scans_here bytes c
  | succ fuel ih =>
    rw [escapedBytes]
    split
    · split
      · exact (ih _ _).mono (c.behind_skip 3)
      · exact scans_malformed
    · exact scans_here bytes c

theorem scans_tagText (fuel : Nat) (done : List Char) (c : Cursor) : Scans c (tagText fuel done c) := by
  induction fuel generalizing done c with
  | zero => exact scans_here done c
  | succ fuel ih =>
    rw [tagText]
    dsimp only
    refine ScansTo.mono ?_ (c.behind_span isTagChar)
    split
    · refine (scans_escapedBytes _ _ _).bind fun bytes d _ => ?_
      dsimp only
      split
      · exact ih _ _
      · exact scans_malformed
    · exact scans_here _ _

theorem scans_scanTagText (c : Cursor) : Scans c (scanTagText c) := by
  unfold scanTagText
  split
  · exact (scans_tagText _ _ c).bind fun s d _ => scans_here _ d
  · exact scans_malformed

theorem scans_scanHandle (c : Cursor) : Scans c (scanHandle c) := by
  unfold scanHandle
  have hspan := c.behind_advance.trans (c.advance.behind_span isNameChar)
  dsimp only
  split
  · exact scans_malformed
  · split
    · exact scans_ok c.behind_advance
    · split
      · exact scans_ok (hspan.trans (Cursor.behind_advance _))
      · exact scans_malformed

theorem scans_scanTag (c : Cursor) : ScansTo (fun t => t.isWhole) c (scanTag c) := by
  unfold scanTag
  dsimp only
  split
  · refine ScansTo.mono ?_ (c.behind_skip 2)
    refine (scans_scanTagText _).bind fun s d _ => ?_
    dsimp only
    split
    · exact (scans_endsWord (by rfl) _).mono d.behind_advance
    · exact scans_malformed
  · split
    · exact (scans_endsWord (by rfl) _).mono c.behind_advance
    · split
      · exact (scans_scanHandle c).bind fun h d _ =>
          (scans_scanTagText d).bind fun s e _ => scans_endsWord (by rfl) e
      · refine ScansTo.mono ?_ c.behind_advance
        exact (scans_scanTagText _).bind fun s d _ => scans_endsWord (by rfl) d

/-! ### Directives, anchors and aliases -/

theorem settles_scanRestOfLine (c : Cursor) :
    Settles (BreakOff c.rest) c.Behind (scanRestOfLine c) := by
  unfold scanRestOfLine
  have hblank := c.behind_skipComment
  dsimp only
  generalize (if c.skipSpaces.peek == '#' then c.skipSpaces.skipLine else c.skipSpaces) = d at hblank
  split
  · exact .ok (hblank.trans (Cursor.behind_lineBreak d))
  · exact .error .malformed

theorem scans_scanNumber (c : Cursor) : Scans c (scanNumber c) := by
  unfold scanNumber
  dsimp only
  split
  · exact scans_malformed
  · split
    next hlong =>
      exact .error (.version ⟨hlong, c.rest.takeWhile isDigit, rfl, List.all_eq_true.1 List.all_takeWhile,
        (List.takeWhile_prefix _).isInfix⟩)
    · exact scans_ok (c.behind_span isDigit)

/-- A directive ends with its line. -/
theorem scans_endsDirective (d : Directive) (c : Cursor) :
    ScansTo (fun t => t.isWhole) c (do .ok (Token.directive d, ← scanRestOfLine c)) :=
  Settles.bind (settles_scanRestOfLine c) fun _ he => .ok ⟨rfl, he⟩

theorem scans_scanDirective (c : Cursor) : ScansTo (fun t => t.isWhole) c (scanDirective c) := by
  unfold scanDirective
  have hspan := c.behind_advance.trans (c.advance.behind_span isNameChar)
  dsimp only
  generalize (c.advance.span isNameChar) = p at hspan
  split
  · exact scans_malformed
  · refine ScansTo.mono ?_ hspan
    split
    · refine ScansTo.mono ?_ p.2.behind_skipSpaces
      refine (scans_scanNumber _).bind fun major d _ => ?_
      dsimp only
      split
      · exact scans_malformed
      · refine ScansTo.mono ?_ d.behind_advance
        refine (scans_scanNumber _).bind fun minor e _ => ?_
        dsimp only
        split
        · exact (scans_here _ e).bind fun d e _ => scans_endsDirective d e
        · exact scans_malformed
    · split
      · refine ScansTo.mono ?_ p.2.behind_skipSpaces
        refine (scans_scanHandle _).bind fun h d _ => ?_
        dsimp only
        split
        · exact scans_malformed
        · refine ScansTo.mono ?_ d.behind_skipSpaces
          refine (scans_scanTagText _).bind fun t e _ => ?_
          dsimp only
          split
          · exact (scans_here _ e).bind fun d e _ => scans_endsDirective d e
          · exact scans_malformed
      · refine ScansTo.mono ?_ p.2.behind_skipLine
        exact (scans_here _ _).bind fun d e _ => scans_endsDirective d e

theorem scans_scanName (c : Cursor) : Scans c (scanName c) := by
  unfold scanName
  dsimp only
  split
  · exact scans_malformed
  · split
    · exact scans_ok (c.behind_advance.trans (c.advance.behind_span isNameChar))
    · exact scans_malformed

/-! ### Block scalars -/

theorem scans_scanBlockMarks (c : Cursor) : Scans c (scanBlockMarks c) := by
  have hindentation : ∀ d : Cursor, Scans d (if isDigit d.peek = true then
      if (d.peek == '0') = true then Except.error Flaw.malformed
      else Except.ok (some (d.peek.toNat - 48), d.advance)
      else Except.ok (none, d)) := by
    intro d
    split
    · split
      · exact scans_malformed
      · exact scans_ok d.behind_advance
    · exact scans_here none d
  unfold scanBlockMarks
  dsimp only
  split
  · refine ScansTo.mono ?_ c.behind_advance
    exact (hindentation c.advance).bind fun n d _ => scans_endsWord trivial d
  · refine (hindentation c).bind fun n d _ => ?_
    dsimp only
    split
    · exact (scans_endsWord trivial _).mono d.behind_advance
    · exact scans_endsWord trivial d

theorem behind_leadingLines (fuel : Nat) (breaks : List Char) (most : Nat) (c : Cursor) :
    c.Behind (leadingLines fuel breaks most c).2.2 := by
  induction fuel generalizing breaks most c with
  | zero => exact Cursor.Behind.refl c
  | succ fuel ih =>
    rw [leadingLines]
    split
    · exact c.behind_advance.trans (ih _ _ _)
    · split
      next heq => exact (Cursor.behind_of_lineBreak heq).trans (ih _ _ _)
      next heq => exact Cursor.behind_of_lineBreak heq

theorem behind_skipIndent (fuel indent : Nat) (c : Cursor) : c.Behind (skipIndent fuel indent c) := by
  induction fuel generalizing c with
  | zero => exact Cursor.Behind.refl c
  | succ fuel ih =>
    rw [skipIndent]
    split
    · exact c.behind_advance.trans (ih _)
    · exact Cursor.Behind.refl c

theorem behind_innerBreaks (indent fuel : Nat) (breaks : List Char) (c : Cursor) :
    c.Behind (innerBreaks indent fuel breaks c).2 := by
  induction fuel generalizing breaks c with
  | zero => exact Cursor.Behind.refl c
  | succ fuel ih =>
    rw [innerBreaks]
    have hindent := behind_skipIndent c.rest.length indent c
    split
    next heq => exact hindent.trans ((Cursor.behind_of_lineBreak heq).trans (ih _ _))
    next heq => exact hindent.trans (Cursor.behind_of_lineBreak heq)

theorem behind_blockLines (folded : Bool) (indent fuel : Nat) (done breaks : List Char)
    (last : Option Char) (c : Cursor) :
    c.Behind (blockLines folded indent fuel done breaks last c).2.2.2 := by
  induction fuel generalizing done breaks last c with
  | zero => exact Cursor.Behind.refl c
  | succ fuel ih =>
    rw [blockLines]
    split
    · have hline := ((c.behind_span fun x => !isBreak x).trans (Cursor.behind_lineBreak _)).trans
        (behind_innerBreaks indent (((c.span fun x => !isBreak x).2.lineBreak.2).rest.length + 1) [] _)
      dsimp only
      split
      · exact hline.trans (ih _ _ _ _)
      · exact hline
    · exact Cursor.Behind.refl c

theorem scans_scanBlockScalar (folded : Bool) (outer : Int) (c : Cursor) :
    ScansTo (fun t => t.isWhole) c (scanBlockScalar folded outer c) := by
  unfold scanBlockScalar
  refine ScansTo.mono ?_ c.behind_advance
  refine (scans_scanBlockMarks c.advance).bind fun marks d _ => ?_
  obtain ⟨chomping, increment⟩ := marks
  refine Settles.bind (settles_scanRestOfLine d) fun e he => ?_
  cases increment with
  | none =>
    have hleading := behind_leadingLines (e.rest.length + 1) [] 0 e
    dsimp only
    generalize leadingLines (e.rest.length + 1) [] 0 e = p at hleading ⊢
    exact .ok ⟨rfl, he.trans (hleading.trans (behind_blockLines ..))⟩
  | some n =>
    have hinner := behind_innerBreaks ((max (outer + 1) 1).toNat + n - 1) (e.rest.length + 1) [] e
    dsimp only
    generalize innerBreaks ((max (outer + 1) 1).toNat + n - 1) (e.rest.length + 1) [] e = p at hinner ⊢
    exact .ok ⟨rfl, he.trans (hinner.trans (behind_blockLines ..))⟩

/-! ### Quoted scalars -/

theorem scans_quotedBreaks (fuel : Nat) (breaks : List Char) (c : Cursor) :
    Scans c (quotedBreaks fuel breaks c) := by
  induction fuel generalizing breaks c with
  | zero => exact scans_here _ c
  | succ fuel ih =>
    rw [quotedBreaks]
    split
    · exact scans_malformed
    · refine ScansTo.mono ?_ c.behind_skipBlanks
      dsimp only
      split
      next heq => exact (ih _ _).mono (Cursor.behind_of_lineBreak heq)
      next heq => exact scans_ok (Cursor.behind_of_lineBreak heq)

theorem lt_of_hexValue? {x : Char} {d : Nat} (h : hexValue? x = some d) : d < 16 := by
  unfold hexValue? at h
  split at h
  next hx =>
    simp only [isDigit, Bool.and_eq_true, decide_eq_true_eq, Char.le_def, UInt32.le_iff_toNat_le] at hx
    simp only [Option.some.injEq] at h
    have : x.toNat ≤ 57 := hx.2
    omega
  · split at h
    next hx =>
      simp only [Bool.and_eq_true, decide_eq_true_eq, Char.le_def, UInt32.le_iff_toNat_le] at hx
      simp only [Option.some.injEq] at h
      have : x.toNat ≤ 102 := hx.2
      omega
    · split at h
      next hx =>
        simp only [Bool.and_eq_true, decide_eq_true_eq, Char.le_def, UInt32.le_iff_toNat_le] at hx
        simp only [Option.some.injEq] at h
        have : x.toNat ≤ 70 := hx.2
        omega
      · cases h

/-- As many digits as are to be read stand there, and they spell a number small enough for their count. -/
theorem of_hexDigits? {n acc v : Nat} {cs : List Char} (h : hexDigits? n acc cs = some v) :
    v < (acc + 1) * Nat.pow 16 n ∧ n ≤ cs.length ∧ hexDigits? n acc (cs.take n) = some v := by
  induction n generalizing acc cs with
  | zero =>
    obtain rfl : acc = v := by simpa [hexDigits?] using h
    simp [hexDigits?]
  | succ n ih =>
    cases cs with
    | nil => simp [hexDigits?] at h
    | cons c cs =>
      rw [hexDigits?] at h
      split at h
      next d hd =>
        obtain ⟨hv, hn, htake⟩ := ih h
        have hd16 := lt_of_hexValue? hd
        refine ⟨Nat.lt_of_lt_of_le hv ?_, by simpa using hn, by simpa [hexDigits?, hd] using htake⟩
        calc (acc * 16 + d + 1) * Nat.pow 16 n ≤ (acc + 1) * 16 * Nat.pow 16 n :=
              Nat.mul_le_mul_right _ (by omega)
          _ = (acc + 1) * (Nat.pow 16 n * 16) := by rw [Nat.mul_assoc, Nat.mul_comm 16]
      next => cases h

theorem of_escapeWidth? {x : Char} {n : Nat} (h : escapeWidth? x = some n) :
    n ≤ 4 ∨ x = 'U' ∧ n = 8 := by
  unfold escapeWidth? at h
  split at h
  next =>
    cases h
    exact Or.inl (by decide)
  next =>
    cases h
    exact Or.inl (by decide)
  next =>
    cases h
    exact Or.inr ⟨rfl, rfl⟩
  next => cases h

/-- An escape that begins with a backslash is for a character beyond the last one only when eight digits
give it. -/
theorem scans_scanEscape {c : Cursor} (h : c.peek = '\\') : Scans c (scanEscape c.advance) := by
  have hrest : c.rest = '\\' :: c.advance.rest := Cursor.rest_of_peek h (by decide)
  unfold scanEscape
  split
  · exact scans_ok (c.behind_advance.trans (Cursor.behind_advance _))
  next width hletter hwidth =>
    split
    · exact scans_malformed
    next n hn =>
      -- two or four digits never reach beyond the last character
      have hlarge : 0x10ffff < n → BreakOff c.rest (codeFlaw n) := by
        intro hlast
        obtain ⟨hlt, hle, htake⟩ := of_hexDigits? hn
        rcases of_escapeWidth? hwidth with hsmall | ⟨hU, rfl⟩
        · have hpow : ∀ k ≤ 4, Nat.pow 16 k ≤ 65536 := by decide
          have := hpow width hsmall
          omega
        · have hnext := Cursor.rest_of_peek hU (by decide)
          refine .escape (List.length_take_of_le hle) (List.IsPrefix.isInfix ?_) htake hlast
          rw [hrest, hnext]
          simpa using List.take_prefix 8 _
      split
      next hover => exact .error (by simpa only [codeFlaw, if_pos hover] using hlarge (by omega))
      next hover =>
        split
        next hlast => exact .error (by simpa only [codeFlaw, if_neg hover] using hlarge hlast)
        · exact scans_ok (c.behind_advance.trans (Cursor.behind_skip _ _))
  · split
    next heq =>
      refine ScansTo.mono ?_ (c.behind_advance.trans (Cursor.behind_of_lineBreak heq))
      exact (scans_quotedBreaks _ _ _).bind fun breaks d _ => scans_here _ d
    · exact scans_malformed

theorem scans_scanQuotedBlanks (c : Cursor) : Scans c (scanQuotedBlanks c) := by
  unfold scanQuotedBlanks
  dsimp only
  refine ScansTo.mono ?_ (c.behind_span fun x => x == ' ' || x == '\t')
  generalize c.span (fun x => x == ' ' || x == '\t') = p
  split
  · exact scans_malformed
  · split
    next heq => exact scans_ok (Cursor.behind_of_lineBreak heq)
    next heq =>
      refine ScansTo.mono ?_ (Cursor.behind_of_lineBreak heq)
      refine (scans_quotedBreaks _ _ _).bind fun breaks d _ => ?_
      dsimp only
      split
      · exact scans_here _ d
      · split
        · exact scans_here _ d
        · exact scans_here _ d

theorem scans_quotedCodes (double : Bool) (fuel : Nat) (done : List Nat) (c : Cursor) :
    Scans c (quotedCodes double fuel done c) := by
  induction fuel generalizing done c with
  | zero => exact scans_malformed
  | succ fuel ih =>
    rw [quotedCodes]
    dsimp only
    refine ScansTo.mono ?_ (c.behind_span isQuotedText)
    generalize c.span isQuotedText = p
    generalize (if double = true then '"' else '\'') = quote
    split
    · exact (ih _ _).mono (p.2.behind_skip 2)
    · split
      · exact scans_ok p.2.behind_advance
      · split
        · exact (ih _ _).mono p.2.behind_advance
        · split
          next hback =>
            refine (scans_scanEscape (by simpa using hback)).bind fun ns d _ => ?_
            exact ih _ d
          next =>
            refine (scans_scanQuotedBlanks p.2).bind fun ns d _ => ?_
            exact ih _ d

theorem scans_scanQuoted (double : Bool) (c : Cursor) :
    ScansTo (fun t => t.isWhole) c (scanQuoted double c) := by
  unfold scanQuoted
  refine ScansTo.mono ?_ c.behind_advance
  exact (scans_quotedCodes double _ _ _).bind fun ns d _ =>
    .ok ⟨rfl, Cursor.Behind.refl d⟩

/-! ### Plain scalars -/

theorem behind_plainBreaks (fuel : Nat) (breaks : List Char) (c : Cursor) :
    c.Behind (plainBreaks fuel breaks c).2 := by
  induction fuel generalizing breaks c with
  | zero => exact Cursor.Behind.refl c
  | succ fuel ih =>
    rw [plainBreaks]
    split
    · exact c.behind_advance.trans (ih _ _)
    · split
      next heq =>
        have hbreak := Cursor.behind_of_lineBreak heq
        split
        · exact hbreak
        · exact hbreak.trans (ih _ _)
      next heq => exact Cursor.behind_of_lineBreak heq

theorem behind_plainSpaces (c : Cursor) : c.Behind (plainSpaces c).2.2 := by
  unfold plainSpaces
  have hspaces := c.behind_span (· == ' ')
  dsimp only
  split
  next heq => exact hspaces.trans (Cursor.behind_of_lineBreak heq)
  next b d heq =>
    have hbreak := hspaces.trans (Cursor.behind_of_lineBreak heq)
    split
    · exact hbreak
    · have hbreaks := hbreak.trans (behind_plainBreaks (d.rest.length + 1) [] d)
      split
      next heq' =>
        rw [heq'] at hbreaks
        exact hbreaks
      next heq' =>
        rw [heq'] at hbreaks
        exact hbreaks

theorem behind_plainText (flow : Bool) (indent : Int) (fuel : Nat) (done spaces : List Char)
    (broken : Bool) (c : Cursor) :
    c.Behind (plainText flow indent fuel done spaces broken c).2.2 := by
  induction fuel generalizing done spaces broken c with
  | zero => exact Cursor.Behind.refl c
  | succ fuel ih =>
    rw [plainText]
    dsimp only
    split
    · exact Cursor.Behind.refl c
    · split
      · exact Cursor.Behind.refl c
      · have hpart := (c.behind_skip (plainLength flow c.rest)).trans (behind_plainSpaces _)
        split
        · exact hpart
        · exact hpart.trans (ih _ _ _ _)

theorem behind_scanPlain (flow : Bool) (outer : Int) (c : Cursor) :
    c.Behind (scanPlain flow outer c).2 :=
  behind_plainText flow (outer + 1) (c.rest.length + 1) [] [] false c

end SchemaDecl.Yaml
