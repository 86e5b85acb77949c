import SchemaDecl.Proofs.Json.Quoted
import SchemaDecl.Proofs.Returns

/-! Texts, lists of them and objects are read as they were written, in every style that keeps the order
of keys and puts no more than a blank behind its signs. The induction is on the data; what is proved of
a part is what it is read as whatever follows it, and that the fuel it takes is within the number of its
characters. Blanks before and after the whole make no difference. -/

namespace SchemaDecl

/-- Data made of texts alone, in lists and in objects with each key once. -/
inductive Value.OfTexts : Value → Prop
  | text (s : String) : OfTexts (.text s)
  | list {items : List Value} (h : ∀ v ∈ items, OfTexts v) : OfTexts (.list items)
  | object {fields : List (String × Value)} (hn : (fields.map Prod.fst).Nodup)
      (h : ∀ f ∈ fields, OfTexts f.2) : OfTexts (.object fields)

namespace Value

attribute [simp] OfTexts.text

@[simp] theorem ofTexts_list_iff {items : List Value} :
    (Value.list items).OfTexts ↔ ∀ v ∈ items, v.OfTexts := by
  refine ⟨fun h => ?_, .list⟩
  generalize hv : Value.list items = v at h
  cases h with
  | list h =>
    cases hv
    exact h
  | _ => cases hv

@[simp] theorem ofTexts_object_iff {fields : List (String × Value)} :
    (object fields).OfTexts ↔ (fields.map Prod.fst).Nodup ∧ ∀ f ∈ fields, f.2.OfTexts := by
  refine ⟨fun h => ?_, fun h => .object h.1 h.2⟩
  generalize hv : object fields = v at h
  cases h with
  | object hn h =>
    obtain rfl := List.map_injective_iff.2 (fun f g hfg => by simpa [Prod.ext_iff] using hfg)
      (Value.map.inj hv)
    exact ⟨hn, h⟩
  | _ => cases hv

theorem insert_of_notMem {k : String} {v : Value} {fields : List (String × Value)}
    (h : k ∉ fields.map Prod.fst) :
    insert (.text k) v (fields.map fun f => (.text f.1, f.2)) =
      (fields ++ [(k, v)]).map fun f => (.text f.1, f.2) := by
  induction fields with
  | nil => rfl
  | cons f fields ih =>
    rw [List.map_cons, List.mem_cons, not_or] at h
    rw [List.map_cons, insert, if_neg (by simpa [sameScalar] using Ne.symm h.1), ih h.2]
    rfl

/-- Entries with keys of their own make the object that they were taken from. -/
theorem ofEntries_fields {fields : List (String × Value)} (hn : (fields.map Prod.fst).Nodup) :
    ofEntries (fields.map fun f => (.text f.1, f.2)) = object fields := by
  -- the induction runs over what is still to be written, behind what was written before
  have hall : ∀ before : List (String × Value), ((before ++ fields).map Prod.fst).Nodup →
      (fields.map fun f => (Value.text f.1, f.2)).foldl (fun m e => insert e.1 e.2 m)
        (before.map fun f => (.text f.1, f.2)) =
      (before ++ fields).map fun f => (.text f.1, f.2) := by
    clear hn
    induction fields with
    | nil => simp
    | cons f fields ih =>
      intro before hb
      have hf : f.1 ∉ before.map Prod.fst := by
        rw [List.map_append, List.map_cons] at hb
        exact fun hm => (List.nodup_append.1 hb).2.2 _ hm _ List.mem_cons_self rfl
      rw [List.map_cons, List.foldl_cons, insert_of_notMem hf, ih _ (by simpa using hb)]
      simp
  rw [ofEntries, object]
  exact congrArg Value.map (hall [] hn)

end Value

namespace Json

/-! ### Blanks -/

/-- Nothing but blanks that a style puts between parts. -/
def Gap (s : List Char) : Prop :=
  ∀ c ∈ s, c = ' ' ∨ c = '\n'

theorem Gap.append {s t : List Char} (hs : Gap s) (ht : Gap t) : Gap (s ++ t) := by
  intro c hc
  rcases List.mem_append.1 hc with h | h
  · exact hs c h
  · exact ht c h

theorem Gap.return_notMem {s : List Char} (h : Gap s) : '\r' ∉ s := by
  intro hm
  rcases h _ hm with h | h <;> cases h

theorem Gap.comma {s : List Char} (h : Gap s) : '\r' ∉ ',' :: s := by
  simp [h.return_notMem]

theorem Gap.skipBlanks_append {s : List Char} (h : Gap s) (rest : List Char) :
    skipBlanks (s ++ rest) = skipBlanks rest := by
  induction s with
  | nil => rfl
  | cons c s ih =>
    have hc : isBlank c = true := by
      rcases h c List.mem_cons_self with rfl | rfl <;> rfl
    rw [List.cons_append, skipBlanks, if_pos hc]
    exact ih fun c hc => h c (List.mem_cons_of_mem _ hc)

theorem skipBlanks_sign {c : Char} (h : isBlank c = false) (rest : List Char) :
    skipBlanks (c :: rest) = c :: rest := by
  rw [skipBlanks, h]
  simp

theorem Gap.skipBlanks_sign {s : List Char} (h : Gap s) {c : Char} (hc : isBlank c = false)
    (rest : List Char) : skipBlanks (s ++ c :: rest) = c :: rest := by
  rw [h.skipBlanks_append, Json.skipBlanks_sign hc]

/-! ### Parts -/

/-- A character that a part can begin with: it is no blank and closes nothing, and it is no mark of the
order of bytes. -/
structure Opens (c : Char) : Prop where
  isBlank_eq_false : isBlank c = false
  ne_bracket : c ≠ ']'
  ne_brace : c ≠ '\x7d'
  ne_mark : c ≠ '\ufeff'

theorem opens_quote : Opens '"' :=
  ⟨by decide, by decide, by decide, by decide⟩

theorem opens_bracket : Opens '[' :=
  ⟨by decide, by decide, by decide, by decide⟩

theorem opens_brace : Opens '\x7b' :=
  ⟨by decide, by decide, by decide, by decide⟩

/-- Characters that blanks may stand around, and that stay as they are when line ends are made one. -/
structure Part (s : List Char) : Prop where
  opens : ∃ c r, s = c :: r ∧ Opens c
  return_notMem : '\r' ∉ s

/-- A part that is read as a value, whatever follows it. -/
structure Spells (s : List Char) (v : Value) : Prop extends Part s where
  read : ∀ {fuel : Nat} (rest : List Char), s.length ≤ fuel → readValue fuel (s ++ rest) = .ok (v, rest)

section Parts

variable {s sep gap before after : List Char} {ss : List (List Char)}

theorem Part.skipBlanks_append (h : Part s) (hgap : Gap gap) (rest : List Char) :
    skipBlanks (gap ++ (s ++ rest)) = s ++ rest := by
  obtain ⟨c, r, rfl, hc⟩ := h.opens
  rw [hgap.skipBlanks_append, List.cons_append, skipBlanks_sign hc.isBlank_eq_false]

theorem Part.intercalate (h : ∀ s ∈ ss, Part s) (hne : ss ≠ []) (hsep : '\r' ∉ sep) :
    Part (sep.intercalate ss) := by
  induction ss with
  | nil => exact absurd rfl hne
  | cons s ss ih =>
    obtain ⟨hs, hss⟩ := List.forall_mem_cons.1 h
    cases ss with
    | nil => simpa using hs
    | cons t ss =>
      obtain ⟨c, r, hr, hc⟩ := hs.opens
      rw [List.intercalate_cons_cons]
      refine ⟨⟨c, _, by rw [hr, List.cons_append, List.cons_append], hc⟩, ?_⟩
      rw [List.mem_append, List.mem_append, not_or, not_or]
      exact ⟨⟨hs.return_notMem, hsep⟩, (ih hss (by simp)).return_notMem⟩

/-- Parts between brackets are a part. -/
theorem Part.bracket {opening closing : Char} (ho : Opens opening) (hc : closing ≠ '\r')
    (hr : opening ≠ '\r') (hbefore : Gap before) (hgap : Gap gap) (hafter : Gap after)
    (h : ∀ s ∈ ss, Part s) :
    Part (opening :: (before ++ ((',' :: gap).intercalate ss ++ (after ++ [closing])))) where
  opens := ⟨opening, _, rfl, ho⟩
  return_notMem := by
    have hitems : '\r' ∉ (',' :: gap).intercalate ss := by
      by_cases hne : ss = []
      · simp [hne]
      · exact (Part.intercalate h hne hgap.comma).return_notMem
    simp [hr.symm, hc.symm, hbefore.return_notMem, hafter.return_notMem, hitems]

theorem parts_of_forall₂ {β : Type} {R : List Char → β → Prop} (hR : ∀ {s x}, R s x → Part s)
    {xs : List β} (h : List.Forall₂ R ss xs) : ∀ s ∈ ss, Part s := by
  induction h with
  | nil => simp
  | cons hs _ ih => exact List.forall_mem_cons.2 ⟨hR hs, ih⟩

theorem fuel_pos {n fuel : Nat} (h : n < fuel) : ∃ k, fuel = k + 1 :=
  Nat.exists_eq_succ_of_ne_zero (Nat.ne_of_gt (Nat.zero_lt_of_lt h))

theorem spells_text (style : Style) (s : String) : Spells (style.text s).toList (.text s) where
  opens := ⟨'"', _, style.toList_text s, opens_quote⟩
  return_notMem := return_notMem_text style s
  read := by
    intro fuel rest hf
    rw [style.toList_text] at hf ⊢
    obtain ⟨fuel, rfl⟩ := fuel_pos (Nat.lt_of_lt_of_le (Nat.succ_pos _) hf)
    rw [List.cons_append, List.append_assoc, List.singleton_append, readValue]
    rw [readText_text]
    rfl

end Parts

/-! ### Lists -/

section Lists

variable {fuel : Nat} {gap before after rest : List Char} {done vs : List Value} {ss : List (List Char)}

/-- Items are read one after another up to the closing bracket. -/
theorem readItems_intercalate (hgap : Gap gap) (hafter : Gap after) (h : List.Forall₂ Spells ss vs)
    (hne : ss ≠ []) (hf : ((',' :: gap).intercalate ss).length < fuel) :
    readItems fuel done ((',' :: gap).intercalate ss ++ (after ++ ']' :: rest)) =
      .ok (done.reverse ++ vs, rest) := by
  induction h generalizing fuel done with
  | nil => exact absurd rfl hne
  | @cons s v ss vs hs htail ih =>
    obtain ⟨fuel, rfl⟩ := fuel_pos hf
    cases ss with
    | nil =>
      cases htail
      have hclosing : skipBlanks (after ++ ']' :: rest) = ']' :: rest := hafter.skipBlanks_sign rfl rest
      rw [List.intercalate_singleton] at hf ⊢
      rw [readItems, hs.read _ (by omega)]
      simp [bind, Except.bind, hclosing]
    | cons t ss =>
      have hparts := Part.intercalate (parts_of_forall₂ Spells.toPart htail) (by simp)
        hgap.comma
      have hcomma : ∀ r, skipBlanks (',' :: r) = ',' :: r := skipBlanks_sign rfl
      rw [List.intercalate_cons_cons, List.length_append, List.length_append, List.length_cons] at hf
      rw [List.intercalate_cons_cons, List.append_assoc, List.append_assoc, List.cons_append, readItems,
        hs.read _ (by omega)]
      simp only [bind, Except.bind, hcomma, hparts.skipBlanks_append hgap]
      rw [ih (by simp) (by omega), List.reverse_cons, List.append_assoc, List.singleton_append]

theorem readValue_list (hbefore : Gap before) (hgap : Gap gap) (hafter : Gap after)
    (h : List.Forall₂ Spells ss vs) (hf : ((',' :: gap).intercalate ss).length < fuel) :
    readValue (fuel + 1) ('[' :: (before ++ ((',' :: gap).intercalate ss ++ (after ++ ']' :: rest)))) =
      .ok (.list vs, rest) := by
  rw [readValue]
  by_cases hne : ss = []
  · subst hne
    cases h
    rw [List.intercalate_nil, List.nil_append, ← List.append_assoc,
      (hbefore.append hafter).skipBlanks_sign rfl]
    rfl
  · have hparts := Part.intercalate (parts_of_forall₂ Spells.toPart h) hne hgap.comma
    have hread : readItems fuel [] ((',' :: gap).intercalate ss ++ (after ++ ']' :: rest)) =
        .ok (vs, rest) :=
      readItems_intercalate hgap hafter h hne hf
    obtain ⟨c, r, hs, hc⟩ := hparts.opens
    rw [hparts.skipBlanks_append hbefore]
    rw [hs, List.cons_append] at hread ⊢
    -- an item does not begin with the closing bracket
    split
    next he =>
      cases he
      exact absurd rfl hc.ne_bracket
    next =>
      rw [hread]
      rfl

theorem spells_list (hbefore : Gap before) (hgap : Gap gap) (hafter : Gap after)
    (h : List.Forall₂ Spells ss vs) :
    Spells ('[' :: (before ++ ((',' :: gap).intercalate ss ++ (after ++ [']'])))) (.list vs) where
  toPart := Part.bracket opens_bracket (by decide) (by decide) hbefore hgap hafter
    (parts_of_forall₂ Spells.toPart h)
  read := by
    intro fuel rest hf
    obtain ⟨fuel, rfl⟩ := fuel_pos (Nat.lt_of_lt_of_le (Nat.succ_pos _) hf)
    rw [List.cons_append, List.append_assoc, List.append_assoc, List.append_assoc,
      List.singleton_append]
    exact readValue_list hbefore hgap hafter h (by simp at hf; omega)

end Lists

/-! ### Objects -/

section Objects

variable {style : Style} {fuel : Nat} {gap before after rest s : List Char} {ss : List (List Char)}
  {done : List (Value × Value)} {f : String × Value} {fields : List (String × Value)}

/-- Characters that are read as a field of an object. -/
def SpellsField (style : Style) (s : List Char) (f : String × Value) : Prop :=
  ∃ gap t, Gap gap ∧ Spells t f.2 ∧ s = (style.text f.1).toList ++ ':' :: (gap ++ t)

theorem SpellsField.toPart (h : SpellsField style s f) : Part s := by
  obtain ⟨gap, t, hgap, ht, rfl⟩ := h
  constructor
  · rw [style.toList_text, List.cons_append]
    exact ⟨'"', _, rfl, opens_quote⟩
  · simp [return_notMem_text, hgap.return_notMem, ht.return_notMem]

theorem readEntries_last (h : SpellsField style s f) (hf : s.length ≤ fuel) (hafter : Gap after) :
    readEntries (fuel + 1) done (s ++ (after ++ '\x7d' :: rest)) =
      .ok (((.text f.1, f.2) :: done).reverse, rest) := by
  obtain ⟨gap, t, hgap, ht, rfl⟩ := h
  have hcolon : ∀ r, skipBlanks (':' :: r) = ':' :: r := skipBlanks_sign rfl
  have hclosing : skipBlanks (after ++ '\x7d' :: rest) = '\x7d' :: rest :=
    hafter.skipBlanks_sign rfl rest
  have hvalue := ht.read (after ++ '\x7d' :: rest) (show t.length ≤ fuel by simp at hf; omega)
  simp only [style.toList_text, List.cons_append, List.append_assoc, List.nil_append, readEntries,
    readText_text, bind, Except.bind, hcolon, ht.skipBlanks_append hgap, hvalue, hclosing]

theorem readEntries_next (h : SpellsField style s f) (hf : s.length ≤ fuel) :
    readEntries (fuel + 1) done (s ++ ',' :: rest) =
      readEntries fuel ((.text f.1, f.2) :: done) (skipBlanks rest) := by
  obtain ⟨gap, t, hgap, ht, rfl⟩ := h
  have hcolon : ∀ r, skipBlanks (':' :: r) = ':' :: r := skipBlanks_sign rfl
  have hcomma : skipBlanks (',' :: rest) = ',' :: rest := skipBlanks_sign rfl rest
  have hvalue := ht.read (',' :: rest) (show t.length ≤ fuel by simp at hf; omega)
  simp only [style.toList_text, List.cons_append, List.append_assoc, List.nil_append, readEntries,
    readText_text, bind, Except.bind, hcolon, ht.skipBlanks_append hgap, hvalue, hcomma]

/-- Fields are read one after another up to the closing brace. -/
theorem readEntries_intercalate (hgap : Gap gap) (hafter : Gap after)
    (h : List.Forall₂ (SpellsField style) ss fields) (hne : ss ≠ [])
    (hf : ((',' :: gap).intercalate ss).length < fuel) :
    readEntries fuel done ((',' :: gap).intercalate ss ++ (after ++ '\x7d' :: rest)) =
      .ok (done.reverse ++ fields.map fun f => (.text f.1, f.2), rest) := by
  induction h generalizing fuel done with
  | nil => exact absurd rfl hne
  | @cons s f ss fields hs htail ih =>
    obtain ⟨fuel, rfl⟩ := fuel_pos hf
    cases ss with
    | nil =>
      cases htail
      rw [List.intercalate_singleton] at hf ⊢
      rw [readEntries_last hs (by omega) hafter]
      simp
    | cons t ss =>
      have hparts := Part.intercalate (parts_of_forall₂ SpellsField.toPart htail) (by simp)
        hgap.comma
      rw [List.intercalate_cons_cons, List.length_append, List.length_append, List.length_cons] at hf
      rw [List.intercalate_cons_cons, List.append_assoc, List.append_assoc, List.cons_append,
        readEntries_next hs (by omega), hparts.skipBlanks_append hgap, ih (by simp) (by omega),
        List.reverse_cons, List.append_assoc, List.singleton_append, List.map_cons]

theorem readValue_object (hbefore : Gap before) (hgap : Gap gap) (hafter : Gap after)
    (h : List.Forall₂ (SpellsField style) ss fields) (hn : (fields.map Prod.fst).Nodup)
    (hf : ((',' :: gap).intercalate ss).length < fuel) :
    readValue (fuel + 1)
        ('\x7b' :: (before ++ ((',' :: gap).intercalate ss ++ (after ++ '\x7d' :: rest)))) =
      .ok (.object fields, rest) := by
  rw [readValue]
  by_cases hne : ss = []
  · subst hne
    cases h
    rw [List.intercalate_nil, List.nil_append, ← List.append_assoc,
      (hbefore.append hafter).skipBlanks_sign rfl]
    rfl
  · have hparts := Part.intercalate (parts_of_forall₂ SpellsField.toPart h) hne hgap.comma
    have hread : readEntries fuel [] ((',' :: gap).intercalate ss ++ (after ++ '\x7d' :: rest)) =
        .ok (fields.map fun f => (.text f.1, f.2), rest) :=
      readEntries_intercalate hgap hafter h hne hf
    obtain ⟨c, r, hs, hc⟩ := hparts.opens
    rw [hparts.skipBlanks_append hbefore]
    rw [hs, List.cons_append] at hread ⊢
    -- a field does not begin with the closing brace
    split
    next he =>
      cases he
      exact absurd rfl hc.ne_brace
    next =>
      rw [hread]
      exact congrArg (fun v => Except.ok (v, rest)) (Value.ofEntries_fields hn)

theorem spells_object (hbefore : Gap before) (hgap : Gap gap) (hafter : Gap after)
    (h : List.Forall₂ (SpellsField style) ss fields) (hn : (fields.map Prod.fst).Nodup) :
    Spells ('\x7b' :: (before ++ ((',' :: gap).intercalate ss ++ (after ++ ['\x7d']))))
      (.object fields) where
  toPart := Part.bracket opens_brace (by decide) (by decide) hbefore hgap hafter
    (parts_of_forall₂ SpellsField.toPart h)
  read := by
    intro fuel rest hf
    obtain ⟨fuel, rfl⟩ := fuel_pos (Nat.lt_of_lt_of_le (Nat.succ_pos _) hf)
    rw [List.cons_append, List.append_assoc, List.append_assoc, List.append_assoc,
      List.singleton_append]
    exact readValue_object hbefore hgap hafter h hn (by simp at hf; omega)

end Objects

/-! ### Written data -/

/-- A style that keeps the order of keys and puts no more than a blank behind its signs. -/
structure Style.Legible (style : Style) : Prop where
  comma : style.comma = "," ∨ style.comma = ", "
  colon : style.colon = ":" ∨ style.colon = ": "
  sorted : style.sorted = false

theorem legible_record : Style.record.Legible :=
  ⟨Or.inl rfl, Or.inr rfl, rfl⟩

section Written

variable {style : Style}

theorem exists_writeItems_spells {level : Nat} {items : List Value}
    (h : ∀ v ∈ items, ∃ t, writeAt style level v = .ok t ∧ Spells t.toList v) :
    ∃ ts, writeItems style level items = .ok ts ∧ List.Forall₂ Spells (ts.map String.toList) items := by
  induction items with
  | nil => exact ⟨[], by rw [writeItems], .nil⟩
  | cons v items ih =>
    obtain ⟨t, ht, hs⟩ := h v List.mem_cons_self
    obtain ⟨ts, hts, hss⟩ := ih fun v hv => h v (List.mem_cons_of_mem _ hv)
    exact ⟨t :: ts, by rw [writeItems, ht, hts]; rfl, .cons hs hss⟩

variable (hl : style.Legible)
include hl

theorem Style.Legible.exists_comma : ∃ gap, Gap gap ∧ style.comma.toList = ',' :: gap := by
  rcases hl.comma with h | h
  · exact ⟨[], by simp [Gap], by rw [h]; rfl⟩
  · exact ⟨[' '], by simp [Gap], by rw [h]; rfl⟩

theorem Style.Legible.exists_colon : ∃ gap, Gap gap ∧ style.colon.toList = ':' :: gap := by
  rcases hl.colon with h | h
  · exact ⟨[], by simp [Gap], by rw [h]; rfl⟩
  · exact ⟨[' '], by simp [Gap], by rw [h]; rfl⟩

/-- Between brackets stand the parts, with blanks before, between and after them. -/
theorem exists_toList_bracket (level : Nat) (opening closing : String) (ts : List String) :
    ∃ before gap after, Gap before ∧ Gap gap ∧ Gap after ∧
      (bracket style level opening closing ts).toList =
        opening.toList ++ (before ++ ((',' :: gap).intercalate (ts.map String.toList) ++
          (after ++ closing.toList))) := by
  obtain ⟨gap, hgap, hcomma⟩ := hl.exists_comma
  have hbreak : ∀ n, Gap ('\n' :: List.replicate n ' ') := by
    intro n c hc
    rcases List.mem_cons.1 hc with rfl | hc
    · exact Or.inr rfl
    · exact Or.inl (List.eq_of_mem_replicate hc)
  have hnil : Gap [] := by simp [Gap]
  unfold bracket
  split
  next h =>
    rw [List.isEmpty_iff.1 h]
    exact ⟨[], [], [], hnil, hnil, hnil, by simp⟩
  next =>
    split
    next => exact ⟨[], gap, [], hnil, hgap, hnil, by simp [hcomma]⟩
    next width _ =>
      refine ⟨_, gap ++ '\n' :: List.replicate (width * (level + 1)) ' ', _,
        hbreak (width * (level + 1)), hgap.append (hbreak _), hbreak (width * level), ?_⟩
      simp [hcomma]

theorem exists_entryTexts_spells {level : Nat} {fields : List (String × Value)}
    (h : ∀ f ∈ fields, ∃ t, writeAt style level f.2 = .ok t ∧ Spells t.toList f.2) :
    ∃ ts, entryTexts style (writeEntries style level (fields.map fun f => (.text f.1, f.2))) = .ok ts ∧
      List.Forall₂ (SpellsField style) (ts.map String.toList) fields := by
  obtain ⟨gap, hgap, hcolon⟩ := hl.exists_colon
  rw [entryTexts, hl.sorted]
  simp only [Bool.false_and, Bool.false_eq_true, if_false]
  induction fields with
  | nil => exact ⟨[], rfl, .nil⟩
  | cons f fields ih =>
    obtain ⟨t, ht, hs⟩ := h f List.mem_cons_self
    obtain ⟨ts, hts, hss⟩ := ih fun f hf => h f (List.mem_cons_of_mem _ hf)
    refine ⟨(style.text f.1 ++ style.colon ++ t) :: ts, ?_, .cons ⟨gap, _, hgap, hs, ?_⟩ hss⟩
    · rw [List.map_cons, writeEntries, List.mapM_cons, ht, hts]
      rfl
    · simp [hcolon]

/-- Data made of texts alone has a text at every level of nesting, which is read as that data. -/
theorem exists_writeAt_spells {v : Value} (h : v.OfTexts) (level : Nat) :
    ∃ t, writeAt style level v = .ok t ∧ Spells t.toList v := by
  induction h generalizing level with
  | text s => exact ⟨_, by rw [writeAt], spells_text style s⟩
  | @list items _ ih =>
    obtain ⟨ts, hts, hss⟩ := exists_writeItems_spells fun v hv => ih v hv (level + 1)
    obtain ⟨before, gap, after, hbefore, hgap, hafter, hb⟩ := exists_toList_bracket hl level "[" "]" ts
    refine ⟨bracket style level "[" "]" ts, by rw [writeAt, hts]; rfl, ?_⟩
    rw [hb]
    exact spells_list hbefore hgap hafter hss
  | @object fields hn _ ih =>
    obtain ⟨ts, hts, hss⟩ := exists_entryTexts_spells hl fun f hf => ih f hf (level + 1)
    obtain ⟨before, gap, after, hbefore, hgap, hafter, hb⟩ :=
      exists_toList_bracket hl level "\x7b" "\x7d" ts
    refine ⟨bracket style level "\x7b" "\x7d" ts, by rw [Value.object, writeAt, hts]; rfl, ?_⟩
    rw [hb]
    exact spells_object hbefore hgap hafter hss hn

/-- What was written is read as it was, with any blanks behind it; and it has no carriage returns. -/
theorem read_of_write {v : Value} (h : v.OfTexts) {t tail : String} (ht : write style v = .ok t)
    (htail : Gap tail.toList) : read (t ++ tail) = .ok v ∧ '\r' ∉ (t ++ tail).toList := by
  obtain ⟨t', ht', hs⟩ := exists_writeAt_spells hl h 0
  obtain rfl : t' = t := Except.ok.inj (ht'.symm.trans ht)
  refine ⟨?_, by simp [hs.return_notMem, htail.return_notMem]⟩
  obtain ⟨c, r, hc, ho⟩ := hs.opens
  have hchars : readChars (t'.toList ++ tail.toList) = readPlain (t'.toList ++ tail.toList) := by
    rw [hc, List.cons_append, readChars.eq_def]
    split
    next he =>
      cases he
      exact absurd rfl ho.ne_mark
    next => rfl
  have hplain : readPlain (t'.toList ++ tail.toList) = .ok v := by
    have hskip : skipBlanks (t'.toList ++ tail.toList) = t'.toList ++ tail.toList := by
      rw [hc, List.cons_append, skipBlanks_sign ho.isBlank_eq_false]
    have hend : skipBlanks tail.toList = [] := by
      simpa [skipBlanks] using htail.skipBlanks_append []
    rw [readPlain, hskip, hs.read _ (by simp; omega)]
    simp [bind, Except.bind, hend]
  rw [read, String.toList_append, hchars, hplain]

end Written

end Json

end SchemaDecl
