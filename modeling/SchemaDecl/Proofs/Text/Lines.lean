import Mathlib.Data.List.Infix
import SchemaDecl.Text.Blank

/-! What a text is cut into, and what it is joined from. Nothing but the mark is lost or added on either
way. A word without line ends stands in a text exactly if it stands in one of its lines, and cutting off
blanks loses no word without blanks. -/

namespace SchemaDecl

section Parts

variable {α : Type} {x : α} {sep part : List α} {parts : List (List α)}

theorem mem_intercalate_of_mem (hpart : part ∈ parts) (hx : x ∈ part) : x ∈ sep.intercalate parts := by
  induction parts with
  | nil => cases hpart
  | cons first parts ih =>
    cases parts with
    | nil => simpa [List.mem_singleton.1 hpart] using hx
    | cons second parts =>
      rw [List.intercalate_cons_cons, List.mem_append, List.mem_append]
      rcases List.mem_cons.1 hpart with rfl | hpart
      · exact Or.inl (Or.inl hx)
      · exact Or.inr (ih hpart)

theorem mem_of_mem_intercalate (h : x ∈ sep.intercalate parts) : x ∈ sep ∨ ∃ part ∈ parts, x ∈ part := by
  induction parts with
  | nil => cases h
  | cons first parts ih =>
    cases parts with
    | nil => exact Or.inr ⟨first, List.mem_cons_self, by simpa using h⟩
    | cons second parts =>
      rw [List.intercalate_cons_cons, List.mem_append, List.mem_append] at h
      rcases h with (h | h) | h
      · exact Or.inr ⟨first, List.mem_cons_self, h⟩
      · exact Or.inl h
      · obtain h | ⟨part, hpart, hx⟩ := ih h
        · exact Or.inl h
        · exact Or.inr ⟨part, List.mem_cons_of_mem _ hpart, hx⟩

theorem mem_intercalate (hx : x ∉ sep) : x ∈ sep.intercalate parts ↔ ∃ part ∈ parts, x ∈ part :=
  ⟨fun h => (mem_of_mem_intercalate h).resolve_left hx,
    fun ⟨_, hpart, hmem⟩ => mem_intercalate_of_mem hpart hmem⟩

variable [DecidableEq α] {a : α} {s : List α}

/-- No part holds the mark that parts are cut at. -/
theorem notMem_of_mem_splitOn (h : part ∈ s.splitOn a) : a ∉ part := by
  induction s generalizing part with
  | nil =>
    rw [List.splitOn_nil, List.mem_singleton] at h
    simp [h]
  | cons c s ih =>
    rw [List.splitOn_cons_eq_if_modifyHead] at h
    split at h
    next =>
      rcases List.mem_cons.1 h with rfl | h
      · exact List.not_mem_nil
      · exact ih h
    next hc =>
      obtain ⟨first, others, hs⟩ := List.exists_cons_of_ne_nil (List.splitOn_ne_nil a s)
      rw [hs, List.modifyHead_cons, List.mem_cons] at h
      rcases h with rfl | h
      · have hfirst : a ∉ first := ih (hs ▸ List.mem_cons_self)
        have hne : a ≠ c := by
          rintro rfl
          simp at hc
        simp [hne, hfirst]
      · exact ih (hs ▸ List.mem_cons_of_mem _ h)

/-- The parts joined again are the whole. -/
theorem mem_of_mem_splitOn (h : part ∈ s.splitOn a) (hx : x ∈ part) : x ∈ s := by
  rw [← @List.intercalate_splitOn _ s _ _ a]
  exact mem_intercalate_of_mem h hx

end Parts

section Words

variable {α : Type} {word : List α}

theorem prefix_append_cons_iff {c : α} (hc : c ∉ word) {xs ys : List α} :
    word <+: xs ++ c :: ys ↔ word <+: xs := by
  induction word generalizing xs with
  | nil => simp
  | cons a word ih =>
    obtain ⟨ha, hword⟩ := not_or.1 (List.mem_cons.not.1 hc)
    cases xs with
    | nil => simp [Ne.symm ha]
    | cons x xs => simp [List.cons_prefix_cons, ih hword]

/-- A word stands on one side of a character that it does not hold. -/
theorem infix_append_cons_iff {c : α} (hc : c ∉ word) {xs ys : List α} :
    word <:+: xs ++ c :: ys ↔ word <:+: xs ∨ word <:+: ys := by
  induction xs with
  | nil =>
    have hprefix : word <+: c :: ys ↔ word = [] := by
      rw [← List.prefix_nil]
      exact @prefix_append_cons_iff _ _ _ hc [] ys
    rw [List.nil_append, List.infix_cons_iff, hprefix, List.infix_nil]
  | cons x xs ih =>
    have hprefix : word <+: x :: (xs ++ c :: ys) ↔ word <+: x :: xs :=
      @prefix_append_cons_iff _ _ _ hc (x :: xs) ys
    rw [List.cons_append, List.infix_cons_iff, List.infix_cons_iff, hprefix, ih, or_assoc]

theorem infix_dropWhile_iff {p : α → Bool} (hne : word ≠ []) (h : ∀ c ∈ word, p c = false)
    {xs : List α} : word <:+: xs.dropWhile p ↔ word <:+: xs := by
  induction xs with
  | nil => rfl
  | cons x xs ih =>
    rw [List.dropWhile_cons]
    split
    next hx =>
      have hprefix : ¬word <+: x :: xs := by
        obtain ⟨a, word, rfl⟩ := List.exists_cons_of_ne_nil hne
        intro hp
        rw [← (List.cons_prefix_cons.1 hp).1, h a List.mem_cons_self] at hx
        cases hx
      rw [ih, List.infix_cons_iff, or_iff_right hprefix]
    next => rfl

end Words

namespace Text

section Word

variable {word : List Char}

theorem infix_trim_iff (hne : word ≠ []) (h : ∀ c ∈ word, isBlank c = false) {s : String} :
    word <:+: (trim s).toList ↔ word <:+: s.toList := by
  have hreverse : ∀ c ∈ word.reverse, isBlank c = false := fun c hc => h c (List.mem_reverse.1 hc)
  rw [trim, String.toList_ofList, trimList, ← List.reverse_infix, List.reverse_reverse,
    infix_dropWhile_iff (List.reverse_ne_nil_iff.2 hne) hreverse, List.reverse_infix,
    infix_dropWhile_iff hne h]

theorem infix_linesFrom_iff (hne : word ≠ []) (h : ∀ c ∈ word, isLineEnd c = false)
    (line s : List Char) :
    (∃ l ∈ linesFrom line s, word <:+: l) ↔ word <:+: line.reverse ++ s := by
  have hend : ∀ {c}, isLineEnd c = true → c ∉ word := fun hc hm => by simp [h _ hm] at hc
  have hnil : ¬word <:+: [] := by rwa [List.infix_nil]
  fun_induction linesFrom line s with
  | case1 line hl => simp [List.isEmpty_iff.1 hl, hne]
  | case2 line hl => simp
  | case3 line rest ih =>
    have hfeed : word <:+: '\n' :: rest ↔ word <:+: rest := by
      rw [← List.nil_append ('\n' :: rest), infix_append_cons_iff (hend (by decide)), or_iff_right hnil]
    rw [List.exists_mem_cons_iff, infix_append_cons_iff (hend (by decide)), hfeed]
    exact or_congr_right ih
  | case4 line c rest hc he ih =>
    rw [List.exists_mem_cons_iff, infix_append_cons_iff (hend he)]
    exact or_congr_right ih
  | case5 line c rest hc he ih =>
    rw [List.reverse_cons, List.append_assoc] at ih
    exact ih

/-- A word without line ends stands in a text exactly if it stands in one of its lines. -/
theorem infix_lines_iff (hne : word ≠ []) (h : ∀ c ∈ word, isLineEnd c = false) {s : String} :
    (∃ l ∈ lines s, word <:+: l.toList) ↔ word <:+: s.toList := by
  rw [← List.nil_append s.toList, ← List.reverse_nil, ← infix_linesFrom_iff hne h, lines]
  simp

end Word

theorem lineEnd_notMem_linesFrom {line s : List Char} (hline : ∀ c ∈ line, isLineEnd c = false) :
    ∀ l ∈ linesFrom line s, ∀ c ∈ l, isLineEnd c = false := by
  fun_induction linesFrom line s with
  | case1 line hl => exact List.forall_mem_nil _
  | case2 line hl => simpa using hline
  | case3 line rest ih =>
    exact List.forall_mem_cons.2
      ⟨fun c hc => hline c (List.mem_reverse.1 hc), ih (List.forall_mem_nil _)⟩
  | case4 line c rest hc he ih =>
    exact List.forall_mem_cons.2
      ⟨fun c hc => hline c (List.mem_reverse.1 hc), ih (List.forall_mem_nil _)⟩
  | case5 line c rest hc he ih =>
    exact ih (List.forall_mem_cons.2 ⟨by simpa using he, hline⟩)

/-- No line holds a line end. -/
theorem lineEnd_notMem_lines {s l : String} (hl : l ∈ lines s) : ∀ c ∈ l.toList, isLineEnd c = false := by
  obtain ⟨cs, hcs, rfl⟩ := List.mem_map.1 hl
  rw [String.toList_ofList]
  exact lineEnd_notMem_linesFrom (List.forall_mem_nil _) cs hcs

end Text

end SchemaDecl
