import Mathlib.Tactic.SplitIfs
import SchemaDecl.Proofs.Json.Quoted
import SchemaDecl.Proofs.Json.Writing
import SchemaDecl.Proofs.Text.Lines

/-! What is written on one line holds no control characters: texts have them escaped, and the rest is
brackets, signs, digits and words. -/

namespace SchemaDecl

/-- Characters none of which is a control character of ASCII. -/
def NoControls (s : List Char) : Prop :=
  ∀ c ∈ s, 32 ≤ c.toNat

namespace NoControls

variable {s t : List Char}

theorem append (hs : NoControls s) (ht : NoControls t) : NoControls (s ++ t) :=
  List.forall_mem_append.2 ⟨hs, ht⟩

theorem cons {c : Char} (hc : 32 ≤ c.toNat) (hs : NoControls s) : NoControls (c :: s) :=
  List.forall_mem_cons.2 ⟨hc, hs⟩

theorem of_subset (hs : NoControls s) (h : t ⊆ s) : NoControls t :=
  fun c hc => hs c (h hc)

theorem intercalate {sep : String} (hsep : NoControls sep.toList) {parts : List String}
    (h : ∀ p ∈ parts, NoControls p.toList) : NoControls (sep.intercalate parts).toList := by
  rw [String.toList_intercalate]
  intro c hc
  rcases mem_of_mem_intercalate hc with hc | ⟨_, hpart, hc⟩
  · exact hsep c hc
  · obtain ⟨p, hp, rfl⟩ := List.mem_map.1 hpart
    exact h p hp c hc

end NoControls

/-! ### Numbers -/

theorem noControls_toString (n : Nat) : NoControls (toString n).toList := by
  intro c hc
  rw [Nat.toString_eq_ofList_toDigits, String.toList_ofList] at hc
  have hdigit : c.isDigit := Nat.isDigit_of_mem_toDigits (by decide) (by decide) hc
  rw [Char.isDigit, Bool.and_eq_true, decide_eq_true_eq] at hdigit
  exact Nat.le_trans (by decide) (UInt32.le_iff_toNat_le.1 hdigit.1)

namespace Binary64

theorem noControls_layout {ds : List Char} (hds : NoControls ds) (point : Int) :
    NoControls (layout ds point) := by
  have hzeros : ∀ n, NoControls (List.replicate n '0') := by
    intro n c hc
    rw [List.eq_of_mem_replicate hc]
    decide
  have htake : ∀ n, NoControls (ds.take n) := fun n => hds.of_subset (List.take_subset n ds)
  have hdrop : ∀ n, NoControls (ds.drop n) := fun n => hds.of_subset (List.drop_subset n ds)
  have hexponent : ∀ n : Nat, NoControls
      (if (toString n).toList.length < 2 then '0' :: (toString n).toList else (toString n).toList) := by
    intro n
    split
    · exact (noControls_toString n).cons (by decide)
    · exact noControls_toString n
  have hfraction : NoControls (if (ds.drop 1).isEmpty then [] else '.' :: ds.drop 1) := by
    split
    · exact List.forall_mem_nil _
    · exact (hdrop 1).cons (by decide)
  have hsign : 32 ≤ (if point - 1 < 0 then '-' else '+').toNat := by
    split <;> decide
  unfold layout
  split_ifs
  · exact (((hzeros _).append hds).cons (by decide)).cons (by decide)
  · exact (hds.append (hzeros _)).append (by simp [NoControls])
  · exact (htake _).append ((hdrop _).cons (by decide))
  · exact ((htake 1).append hfraction).append (((hexponent _).cons hsign).cons (by decide))

theorem noControls_toText (x : Binary64) : NoControls x.toText.toList := by
  cases x with
  | nan => simp [toText, NoControls]
  | infinite s => cases s <;> simp [toText, NoControls]
  | finite s m q =>
    have hbody : NoControls (if m == 0 then ['0', '.', '0']
        else layout (dropZeros (toString (shortest m q).digits).toList) (shortest m q).point) := by
      split
      · simp [NoControls]
      · have hdigits := noControls_toString (shortest m q).digits
        refine noControls_layout (hdigits.of_subset fun c hc => ?_) _
        exact List.mem_reverse.1 (List.dropWhile_subset _ (List.mem_reverse.1 hc))
    rw [toText, String.toList_ofList]
    split
    · exact hbody.cons (by decide)
    · exact hbody

end Binary64

namespace Json

/-! ### Texts -/

theorem noControls_hex (width n : Nat) : NoControls (Text.hex width n) := by
  have hdigit : ∀ k < 16, 32 ≤ (Text.hexDigit k).toNat := by decide
  intro c hc
  obtain ⟨k, -, rfl⟩ := List.mem_map.1 hc
  exact hdigit _ (Nat.mod_lt _ (by decide))

theorem noControls_unitEscape (n : Nat) : NoControls (Text.unitEscape n) :=
  ((noControls_hex 4 n).cons (by decide)).cons (by decide)

theorem noControls_shortEscape {c : Char} {s : List Char} (h : Text.shortEscape? c = some s) :
    NoControls s := by
  unfold Text.shortEscape? at h
  split_ifs at h <;> (cases h; simp [NoControls])

theorem noControls_mark (style : Style) (c : Char) : NoControls (style.mark c) := by
  rw [Style.mark, Text.quoteAsciiChar, Text.quoteChar]
  cases h : Text.shortEscape? c with
  | some s =>
    simp only [ite_self]
    exact noControls_shortEscape h
  | none =>
    dsimp only
    split_ifs with hascii hself hunit hunit
    · rw [Bool.and_eq_true, decide_eq_true_eq] at hself
      exact List.forall_mem_singleton.2 hself.1
    · exact noControls_unitEscape _
    · exact (noControls_unitEscape _).append (noControls_unitEscape _)
    · exact noControls_unitEscape _
    · exact List.forall_mem_singleton.2 (Nat.le_of_not_lt hunit)

theorem noControls_text (style : Style) (s : String) : NoControls (style.text s).toList := by
  have hmarks : NoControls (s.toList.flatMap style.mark) := by
    intro c hc
    obtain ⟨x, -, hx⟩ := List.mem_flatMap.1 hc
    exact noControls_mark style x c hx
  rw [Style.toList_text]
  exact (hmarks.append (by simp [NoControls])).cons (by decide)

/-! ### Values -/

section Values

variable {style : Style}

theorem noControls_integerText {n : Int} {t : String} (h : integerText n = .ok t) : NoControls t.toList := by
  rw [integerText, Numeral.integerText?] at h
  have hdigits := noControls_toString n.natAbs
  split at h
  next t' ht =>
    obtain ⟨-, ht⟩ := Option.ite_none_left_eq_some.1 ht
    cases h
    cases ht
    split
    · rw [String.toList_append]
      exact hdigits.cons (by decide)
    · exact hdigits
  next => cases h

theorem noControls_floatText {x : Binary64} {t : String} (h : floatText style x = .ok t) :
    NoControls t.toList := by
  cases x with
  | nan =>
    rw [floatText] at h
    split at h <;> cases h
    simp [NoControls]
  | infinite s =>
    rw [floatText] at h
    split at h <;> cases h
    cases s <;> simp [NoControls]
  | finite s m q =>
    cases h
    exact Binary64.noControls_toText _

/-- A style that puts everything on one line. -/
structure Style.OneLine (style : Style) : Prop where
  indent : style.indent = none
  comma : NoControls style.comma.toList
  colon : NoControls style.colon.toList

theorem noControls_bracket (hs : style.OneLine) (level : Nat) {opening closing : String}
    (hopening : NoControls opening.toList) (hclosing : NoControls closing.toList) {items : List String}
    (h : ∀ t ∈ items, NoControls t.toList) :
    NoControls (bracket style level opening closing items).toList := by
  rw [bracket, hs.indent]
  split
  · rw [String.toList_append]
    exact hopening.append hclosing
  · rw [String.toList_append, String.toList_append]
    exact (hopening.append (hs.comma.intercalate h)).append hclosing

theorem noControls_entryTexts (hs : style.OneLine) {entries : List (Value × Except WriteError String)}
    (h : ∀ e ∈ entries, ∀ t, e.2 = .ok t → NoControls t.toList) {texts : List String}
    (ht : entryTexts style entries = .ok texts) : ∀ t ∈ texts, NoControls t.toList := by
  have hentries : ∀ e ∈ (if style.sorted then sortEntries entries else entries), e ∈ entries := by
    intro e he
    split at he
    · exact mem_sortEntries he
    · exact he
  rw [entryTexts] at ht
  split at ht
  next => cases ht
  next =>
    intro t hmem
    obtain ⟨⟨k, v⟩, he, hw⟩ := exists_of_mem_mapM ht hmem
    obtain ⟨key, -, hw⟩ := bind_eq_ok hw
    obtain ⟨text, hv, ⟨⟩⟩ := bind_eq_ok hw
    rw [String.toList_append, String.toList_append]
    exact ((noControls_text style key).append hs.colon).append (h _ (hentries _ he) text hv)

mutual

/-- What is written of a value on one line holds no control characters. -/
theorem noControls_writeAt (hs : style.OneLine) (level : Nat) :
    ∀ (v : Value) {t : String}, writeAt style level v = .ok t → NoControls t.toList
  | .null, t, h => by
    cases h
    simp [NoControls]
  | .bool b, t, h => by
    cases h
    cases b <;> simp [NoControls]
  | .int n, t, h => noControls_integerText h
  | .float x, t, h => noControls_floatText h
  | .text s, t, h => by
    cases h
    exact noControls_text style s
  | .list items, t, h => by
    obtain ⟨ts, hts, ⟨⟩⟩ := bind_eq_ok h
    exact noControls_bracket hs level (by simp [NoControls]) (by simp [NoControls])
      (noControls_writeItems hs (level + 1) items hts)
  | .map entries, t, h => by
    obtain ⟨ts, hts, ⟨⟩⟩ := bind_eq_ok h
    exact noControls_bracket hs level (by simp [NoControls]) (by simp [NoControls])
      (noControls_entryTexts hs (noControls_writeEntries hs (level + 1) entries) hts)
  | .outer _, t, h => by cases h
  | .date _, t, h | .time _, t, h | .bytes _, t, h | .set _, t, h => by
    simp only [writeAt] at h
    split at h <;> cases h
    exact noControls_text style _

theorem noControls_writeItems (hs : style.OneLine) (level : Nat) :
    ∀ (items : List Value) {ts : List String}, writeItems style level items = .ok ts →
      ∀ t ∈ ts, NoControls t.toList
  | [], ts, h => by
    cases h
    exact List.forall_mem_nil _
  | v :: rest, ts, h => by
    obtain ⟨t, ht, h⟩ := bind_eq_ok h
    obtain ⟨us, hus, ⟨⟩⟩ := bind_eq_ok h
    exact List.forall_mem_cons.2
      ⟨noControls_writeAt hs level v ht, noControls_writeItems hs level rest hus⟩

theorem noControls_writeEntries (hs : style.OneLine) (level : Nat) :
    ∀ (entries : List (Value × Value)), ∀ e ∈ writeEntries style level entries,
      ∀ t, e.2 = .ok t → NoControls t.toList
  | [] => List.forall_mem_nil _
  | (_, v) :: rest => List.forall_mem_cons.2
      ⟨fun _ ht => noControls_writeAt hs level v ht, noControls_writeEntries hs level rest⟩

end

end Values

theorem oneLine_example : Style.example.OneLine :=
  ⟨rfl, by simp [Style.example, NoControls], by simp [Style.example, NoControls]⟩

/-- An example in documentation holds no control characters. -/
theorem noControls_example {v : Value} {t : String} (h : write .example v = .ok t) : NoControls t.toList :=
  noControls_writeAt oneLine_example 0 v h

end Json

end SchemaDecl
