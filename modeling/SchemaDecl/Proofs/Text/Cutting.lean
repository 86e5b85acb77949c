import SchemaDecl.Proofs.Json.Quoted
import SchemaDecl.Proofs.Text.Lines
import SchemaDecl.Target

/-! Parts that a text begins with: a word, a literal, everything up to a mark. Each is cut off as it was
put there, whatever stands behind it, if only the end of it shows. -/

namespace SchemaDecl.Text

/-! ### Words -/

section Words

variable {p : Char → Bool} {word rest : List Char}

/-- A word ends where its characters do. -/
theorem takeWhile_word (hw : ∀ c ∈ word, p c) (hr : ∀ c ∈ rest.head?, p c = false) :
    (word ++ rest).takeWhile p = word := by
  rw [List.takeWhile_append_of_pos hw]
  cases rest with
  | nil => exact List.append_nil word
  | cons c rest => rw [List.takeWhile_cons_of_neg (by simp [hr c rfl]), List.append_nil]

theorem dropWhile_word (hw : ∀ c ∈ word, p c) (hr : ∀ c ∈ rest.head?, p c = false) :
    (word ++ rest).dropWhile p = rest := by
  rw [List.dropWhile_append_of_pos hw]
  cases rest with
  | nil => rfl
  | cons c rest => rw [List.dropWhile_cons_of_neg (by simp [hr c rfl])]

end Words

/-! ### Literals -/

/-- The text of a literal that a text begins with, and what follows. -/
def quoted? : List Char → Option (String × List Char)
  | '"' :: cs => (Json.readText 0 (cs.length + 1) [] cs).toOption
  | _ => none

theorem literal_append (v : String) (rest : List Char) :
    (literal v).toList ++ rest = '"' :: (v.toList.flatMap quoteChar ++ '"' :: rest) := by
  simp [literal, quote]

theorem quoted?_literal (v : String) (rest : List Char) :
    quoted? ((literal v).toList ++ rest) = some (v, rest) := by
  have hmark : v.toList.flatMap (Json.Style.mark .message) = v.toList.flatMap quoteChar := rfl
  have hread := Json.readText_text .message v 0 rest
  rw [hmark] at hread
  rw [literal_append, quoted?, hread]
  rfl

/-! ### Readings -/

/-- What texts are read as is up to the text, if each is read in one way only. -/
theorem exists_reading {α β : Type} [Inhabited β] {R : String → β → Prop} {xs : List α}
    {text : α → String} {P : α → β → Prop} (h : ∀ x ∈ xs, ∃ b, R (text x) b ∧ P x b)
    (hu : ∀ s a b, R s a → R s b → a = b) :
    ∃ read : String → β, ∀ x ∈ xs, R (text x) (read (text x)) ∧ P x (read (text x)) := by
  classical
  refine ⟨fun s => if hs : ∃ b, R s b then hs.choose else default, fun x hx => ?_⟩
  obtain ⟨b, hb, hp⟩ := h x hx
  have hsome : ∃ b, R (text x) b := ⟨b, hb⟩
  have hread : (if hs : ∃ b, R (text x) b then hs.choose else default) = b := by
    rw [dif_pos hsome]
    exact hu _ _ _ hsome.choose_spec hb
  simp only [hread]
  exact ⟨hb, hp⟩

/-! ### Marks -/

section Marks

variable {c : Char} {word : List Char}

/-- No mark begins where its first character does not stand. -/
theorem infix_of_notMem {xs ys : List Char} (hx : c ∉ xs) (h : c :: word <:+: xs ++ ys) :
    c :: word <:+: ys := by
  induction xs with
  | nil => exact h
  | cons x xs ih =>
    rw [List.mem_cons, not_or] at hx
    rw [List.cons_append, List.infix_cons_iff, List.cons_prefix_cons] at h
    exact h.elim (fun hp => absurd hp.1 hx.1) (ih hx.2)

/-- A mark that its first character begins anew stands on one side of that character. -/
theorem infix_append_cons {xs ys : List Char} (hc : c ∉ word) (h : c :: word <:+: xs ++ c :: ys) :
    c :: word <:+: xs ∨ c :: word <:+: c :: ys := by
  induction xs with
  | nil => exact Or.inr h
  | cons x xs ih =>
    rw [List.cons_append, List.infix_cons_iff, List.cons_prefix_cons, prefix_append_cons_iff hc] at h
    rw [List.infix_cons_iff, List.cons_prefix_cons]
    rcases h with h | h
    · exact Or.inl (Or.inl h)
    · exact (ih h).imp_left Or.inr

/-- In parts that each begin with the first character of a mark, the mark is the beginning of one of them
or stands further on in one. -/
theorem infix_flatMap_cons (hc : c ∉ word) {parts : List (List Char)}
    (h : c :: word <:+: parts.flatMap (c :: ·)) :
    ∃ part ∈ parts, word <+: part ∨ c :: word <:+: part := by
  induction parts with
  | nil => simp at h
  | cons part parts ih =>
    rw [List.flatMap_cons, List.cons_append, List.infix_cons_iff, List.cons_prefix_cons] at h
    cases parts with
    | nil =>
      rw [List.flatMap_nil, List.append_nil] at h
      exact ⟨part, List.mem_cons_self, h.imp_left And.right⟩
    | cons next parts =>
      have hrest : (next :: parts).flatMap (c :: ·) = c :: (next ++ parts.flatMap (c :: ·)) := by
        rw [List.flatMap_cons, List.cons_append]
      rw [hrest] at h ih
      rcases h with ⟨-, h⟩ | h
      · exact ⟨part, List.mem_cons_self, Or.inl ((prefix_append_cons_iff hc).1 h)⟩
      · rcases infix_append_cons hc h with h | h
        · exact ⟨part, List.mem_cons_self, Or.inr h⟩
        · obtain ⟨part', hmem, hpart⟩ := ih h
          exact ⟨part', List.mem_cons_of_mem _ hmem, hpart⟩

end Marks

/-- The text behind the first mark. -/
def behind? (mark : List Char) : List Char → Option (List Char)
  | [] => if mark = [] then some [] else none
  | c :: cs => if mark.isPrefixOf (c :: cs) then some ((c :: cs).drop mark.length) else behind? mark cs

/-- A mark is the first one if none ends before it does. -/
theorem behind?_append {mark body : List Char} (h : ¬mark <:+: body ++ mark.dropLast)
    (rest : List Char) : behind? mark (body ++ (mark ++ rest)) = some rest := by
  induction body with
  | nil =>
    cases mark with
    | nil => exact absurd (List.nil_infix) h
    | cons m mark =>
      have hprefix : (m :: mark).isPrefixOf (m :: (mark ++ rest)) = true :=
        List.isPrefixOf_iff_prefix.2 (List.prefix_append (m :: mark) rest)
      rw [List.nil_append, List.cons_append, behind?, if_pos hprefix]
      simp
  | cons c body ih =>
    rw [List.cons_append, List.infix_cons_iff, not_or] at h
    have hprefix : ¬mark.isPrefixOf (c :: (body ++ (mark ++ rest))) := by
      rw [List.isPrefixOf_iff_prefix]
      refine fun hp => h.1 (List.prefix_of_prefix_length_le hp ?_ ?_)
      · rw [List.cons_prefix_cons, ← List.append_assoc, List.append_assoc]
        refine ⟨rfl, (List.prefix_append_right_inj body).2 ?_⟩
        exact (List.dropLast_prefix mark).trans (List.prefix_append mark rest)
      · simp
        omega
    rw [List.cons_append, behind?, if_neg hprefix, ih h.2]

end SchemaDecl.Text
