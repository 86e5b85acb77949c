import SchemaDecl.Proofs.Identifier.Shape
import SchemaDecl.Proofs.Python.Pieces
import SchemaDecl.Proofs.Synthesis.Leaves

/-! What the text of a type needs from the typing library, read off the text alone: the words before
brackets tell it. So types with one text need the same, and it makes no difference that of the members
of a union with one text only the first is written. -/

namespace SchemaDecl

/-- Only fields of records have members of an enumeration for their types, and unions have members. -/
inductive TypeExpr.Memberless : TypeExpr → Prop
  | reference (n : String) : Memberless (.reference n none)
  | union {ms : List TypeExpr} (hne : ms ≠ []) (h : ∀ t ∈ ms, Memberless t) : Memberless (.union ms)
  | sequence {t : TypeExpr} (h : Memberless t) : Memberless (.sequence t)
  | record {fs : List Field}
      (h : ∀ f ∈ fs, (∀ n m, f.type ≠ .reference n (some m)) → Memberless f.type) :
      Memberless (.record fs)
  | literals (vs : List String) : Memberless (.literals vs)
  | primitive (p : Primitive) : Memberless (.primitive p)

namespace Synthesis

open List (Forall₂)

variable {doc : Document} {registry : Option Registry}

theorem memberless_record {name : Name} {required : List String} {ps : List (String × Definition)}
    {fs : List (Field × List String)}
    (h : Forall₂ (FieldRule doc registry name required fun _ _ s => s.type.Memberless) ps fs) :
    (ofFields fs).type.Memberless := by
  refine .record fun f hf hmember => ?_
  obtain ⟨x, hx, rfl⟩ := List.mem_map.1 hf
  obtain ⟨p, -, hp⟩ := exists_of_forall₂ h hx
  cases hp with
  | member _ _ => exact absurd rfl (hmember _ _)
  | plain _ _ ht _ => exact ht

theorem closed_memberless : Closed doc registry fun _ _ s => s.type.Memberless where
  reference _ _ := .reference _
  literals _ _ _ := .literals _
  union _ _ _ hne h := by
    obtain ⟨hne, hmembers⟩ := forall_types_of_forall₂ hne h
    exact .union hne hmembers
  sequence _ _ _ _ _ _ h := .sequence h
  record _ _ _ _ _ h := memberless_record h
  primitive _ _ _ _ _ _ := .primitive _

theorem memberless_of_ofSchema {name : Name} {d : Definition} {s : Synthesis}
    (h : ofSchema doc registry name d = .ok s) : s.type.Memberless := by
  rcases closed_memberless.of_ofSchema h with ⟨-, fs, rfl, hfs⟩ | ⟨-, hs⟩
  · exact memberless_record hfs
  · exact hs

end Synthesis

namespace Python

open Identifier (ofName isLetterOrDigit)

/-! ### Words before brackets -/

/-- The construct that is written with a word before brackets. Dictionaries are written of anything. -/
def constructOf? (word : String) : Option Typing :=
  [("dict", .any), ("Literal", .literal), ("Union", .union)].lookup word

/-- What the last characters were part of. -/
inductive Reading where
  | code (word : List Char)
  | text
  | escape

/-- The constructs whose words stand before the brackets outside of strings. -/
def scan : Reading → List Char → List Typing
  | _, [] => []
  | .code word, c :: cs =>
    if c == '"' then scan .text cs
    else if c == '[' then (constructOf? (String.ofList word)).toList ++ scan (.code []) cs
    else if isLetterOrDigit c then scan (.code (word ++ [c])) cs
    else scan (.code []) cs
  | .text, c :: cs =>
    if c == '"' then scan (.code []) cs
    else if c == '\\' then scan .escape cs
    else scan .text cs
  | .escape, _ :: cs => scan .text cs

/-- What a text needs from the typing library. -/
def typingIn (text : String) : List Typing :=
  scan (.code []) text.toList

example : typingIn "Union[list[Union_2], Literal[\"Any[\\\"\"], dict[str, Any]]" =
    [.union, .literal, .any] := by
  decide

/-- The text of a type ends before these. -/
def Ends (cs : List Char) : Prop :=
  ∀ c ∈ cs.head?, c = ',' ∨ c = ']'

/-- The text needs this wherever it stands. -/
def Needs (text : String) (ts : List Typing) : Prop :=
  ∀ rest, Ends rest → scan (.code []) (text.toList ++ rest) = ts ++ scan (.code []) rest

theorem Needs.typingIn_eq {text : String} {ts : List Typing} (h : Needs text ts) :
    typingIn text = ts := by
  have hend := h [] (by rintro c ⟨⟩)
  rwa [List.append_nil, scan, List.append_nil] at hend

theorem scan_letters (word : List Char) {cs : List Char} (h : cs.all isLetterOrDigit)
    (rest : List Char) : scan (.code word) (cs ++ rest) = scan (.code (word ++ cs)) rest := by
  induction cs generalizing word with
  | nil => rw [List.append_nil, List.nil_append]
  | cons c cs ih =>
    obtain ⟨hc, hcs⟩ := Bool.and_eq_true_iff.1 h
    have hquote : c ≠ '"' := by
      rintro rfl
      exact absurd hc (by decide)
    have hbracket : c ≠ '[' := by
      rintro rfl
      exact absurd hc (by decide)
    rw [List.cons_append, scan, if_neg (by simpa using hquote), if_neg (by simpa using hbracket),
      if_pos hc, ih _ hcs, List.append_assoc, List.singleton_append]

/-- A word that brackets do not follow is of no account. -/
theorem scan_of_ends (word : List Char) {rest : List Char} (h : Ends rest) :
    scan (.code word) rest = scan (.code []) rest := by
  cases rest with
  | nil => rfl
  | cons c cs =>
    rcases h c rfl with rfl | rfl <;> rfl

theorem needs_word {text : String} (h : text.toList.all isLetterOrDigit) : Needs text [] := by
  intro rest hrest
  rw [scan_letters [] h, scan_of_ends _ hrest, List.nil_append]

theorem needs_brackets (word : String) {body : String} (hw : word.toList.all isLetterOrDigit)
    {ts : List Typing} (hb : Needs body ts) :
    Needs (word ++ "[" ++ body ++ "]") ((constructOf? word).toList ++ ts) := by
  intro rest _
  have hclose : Ends (']' :: rest) := by
    rintro c ⟨⟩
    exact Or.inr rfl
  have hopen : scan (.code word.toList) ('[' :: (body.toList ++ ']' :: rest)) =
      (constructOf? word).toList ++ scan (.code []) (body.toList ++ ']' :: rest) := by
    rw [scan, if_neg (by decide), if_pos (by decide), String.ofList_toList]
  calc scan (.code []) ((word ++ "[" ++ body ++ "]").toList ++ rest)
      = scan (.code []) (word.toList ++ '[' :: (body.toList ++ ']' :: rest)) := by simp
    _ = (constructOf? word).toList ++ (ts ++ scan (.code []) (']' :: rest)) := by
        rw [scan_letters [] hw, List.nil_append, hopen, hb _ hclose]
    _ = ((constructOf? word).toList ++ ts) ++ scan (.code []) rest := by
        rw [List.append_assoc]
        rfl

theorem needs_commaSeparated {texts : List String} {f : String → List Typing}
    (h : ∀ text ∈ texts, Needs text (f text)) : Needs (commaSeparated texts) (texts.flatMap f) := by
  induction texts with
  | nil => exact needs_word (by simp [commaSeparated])
  | cons text texts ih =>
    obtain ⟨htext, htexts⟩ := List.forall_mem_cons.1 h
    cases texts with
    | nil => simpa [commaSeparated] using htext
    | cons text' texts =>
      intro rest hrest
      have hcomma : Ends (", ".toList ++ ((commaSeparated (text' :: texts)).toList ++ rest)) := by
        rintro c ⟨⟩
        exact Or.inl rfl
      have hskip : ∀ cs, scan (.code []) (", ".toList ++ cs) = scan (.code []) cs := fun _ => rfl
      rw [commaSeparated, String.intercalate_cons_cons, String.toList_append, String.toList_append,
        List.append_assoc, List.append_assoc, ← commaSeparated, htext _ hcomma, hskip,
        ih htexts rest hrest]
      simp

theorem needs_nothing {texts : List String} (h : ∀ text ∈ texts, Needs text []) :
    Needs (commaSeparated texts) [] := by
  have hall := needs_commaSeparated h
  rwa [List.flatMap_eq_nil_iff.2 fun _ _ => rfl] at hall

/-! ### Strings -/

theorem scan_text {cs : List Char} (h : cs.all fun c => c != '"' && c != '\\') (rest : List Char) :
    scan .text (cs ++ rest) = scan .text rest := by
  induction cs with
  | nil => rfl
  | cons c cs ih =>
    obtain ⟨hc, hcs⟩ := Bool.and_eq_true_iff.1 h
    obtain ⟨hquote, hslash⟩ := Bool.and_eq_true_iff.1 hc
    rw [List.cons_append, scan, if_neg (by simpa using hquote), if_neg (by simpa using hslash), ih hcs]

/-- A character between quotes does not end the string. -/
theorem scan_quoteChar (c : Char) (rest : List Char) :
    scan .text (Text.quoteChar c ++ rest) = scan .text rest := by
  by_cases hc : c ∈ ['"', '\\', '\n', '\r', '\t', '\x08', '\x0c']
  · simp only [List.mem_cons, List.not_mem_nil, or_false] at hc
    rcases hc with rfl | rfl | rfl | rfl | rfl | rfl | rfl <;> rfl
  · simp only [List.mem_cons, List.not_mem_nil, or_false, not_or] at hc
    have he : Text.shortEscape? c = none := by simp [Text.shortEscape?, hc]
    have hdigits : ∀ n < 32, (Text.hex 4 n).all fun x => x != '"' && x != '\\' := by decide
    rw [Text.quoteChar, he]
    dsimp only
    split
    next hlt => exact scan_text (hdigits c.toNat hlt) rest
    next => exact scan_text (by simp [hc]) rest

/-- Nothing in a string is of account. -/
theorem needs_literal (s : String) : Needs (literal s) [] := by
  have hchars : ∀ cs rest : List Char,
      scan .text (cs.flatMap Text.quoteChar ++ rest) = scan .text rest := by
    intro cs rest
    induction cs with
    | nil => rfl
    | cons c cs ih => rw [List.flatMap_cons, List.append_assoc, scan_quoteChar, ih]
  intro rest _
  have hstart : ∀ cs, scan (.code []) ('"' :: cs) = scan .text cs := fun _ => rfl
  rw [literal, Text.quote, String.toList_ofList, List.cons_append, List.cons_append, hstart,
    List.append_assoc, hchars]
  rfl

/-! ### Types -/

theorem mem_typingUsedAll {t : Typing} {ms : List TypeExpr} :
    t ∈ typingUsedAll ms ↔ ∃ m ∈ ms, t ∈ typingUsed m := by
  induction ms with
  | nil => simp [typingUsedAll]
  | cons m ms ih => simp [typingUsedAll, ih]

theorem mem_typingUsed_union {t : Typing} {ms : List TypeExpr} :
    t ∈ typingUsed (.union ms) ↔
      (t = .union ∧ 1 < (firstSeen (ms.map typeText)).length) ∨ ∃ m ∈ ms, t ∈ typingUsed m := by
  rw [typingUsed, List.mem_append, mem_typingUsedAll, typeTexts_eq_map]
  split
  next h => simp [h, or_comm]
  next h => simp [h]

theorem letters_ofName (n : String) : (ofName n).toList.all isLetterOrDigit :=
  List.all_eq_true.2 (Identifier.ofName_wellFormed n).toIsWord.chars

/-- The text of a union needs what its members need, and the construct itself where they have not
all one text. -/
theorem needs_unionText {texts : List String} (hne : texts ≠ [])
    (h : ∀ text ∈ texts, Needs text (typingIn text)) :
    ∃ ts, Needs (unionText texts) ts ∧ ∀ c, c ∈ ts ↔
      (c = .union ∧ 1 < (firstSeen texts).length) ∨ ∃ text ∈ texts, c ∈ typingIn text := by
  have hfirst : ∀ text ∈ firstSeen texts, Needs text (typingIn text) :=
    fun text ht => h text (mem_firstSeen.1 ht)
  have hmem : ∀ c, (∃ text ∈ texts, c ∈ typingIn text) ↔
      ∃ text ∈ firstSeen texts, c ∈ typingIn text := by
    simp only [mem_firstSeen, implies_true]
  unfold unionText
  split
  next text hs =>
    refine ⟨typingIn text, hfirst text (by simp [hs]), fun c => ?_⟩
    rw [hmem, hs]
    simp
  next hmany =>
    have hlen : 1 < (firstSeen texts).length := by
      obtain ⟨text, rest, rfl⟩ := List.exists_cons_of_ne_nil hne
      rw [firstSeen_cons] at hmany ⊢
      cases hrest : (firstSeen rest).filter fun y => !(y == text) with
      | nil => exact absurd (congrArg (text :: ·) hrest) (hmany text)
      | cons text' rest => simp
    refine ⟨_, needs_brackets "Union" (by decide) (needs_commaSeparated hfirst), fun c => ?_⟩
    have hunion : constructOf? "Union" = some .union := by decide
    rw [hmem, hunion]
    simp [hlen]

/-- The text of a type needs what the type does. -/
theorem needs_typeText {t : TypeExpr} (h : t.Memberless) :
    ∃ ts, Needs (typeText t) ts ∧ ∀ c, c ∈ ts ↔ c ∈ typingUsed t := by
  induction h with
  | reference n => exact ⟨[], needs_word (letters_ofName n), by simp [typingUsed]⟩
  | @union ms hne _ ih =>
    have hmembers : ∀ m ∈ ms, Needs (typeText m) (typingIn (typeText m)) ∧
        ∀ c, c ∈ typingIn (typeText m) ↔ c ∈ typingUsed m := by
      intro m hm
      obtain ⟨ts, hts, hall⟩ := ih m hm
      rw [hts.typingIn_eq]
      exact ⟨hts, hall⟩
    have hne : ms.map typeText ≠ [] := by simpa using hne
    obtain ⟨ts, hts, hall⟩ :=
      needs_unionText hne (List.forall_mem_map.2 fun m hm => (hmembers m hm).1)
    refine ⟨ts, ?_, fun c => ?_⟩
    · rwa [typeText, typeTexts_eq_map]
    · rw [hall, mem_typingUsed_union]
      simp only [List.mem_map, exists_exists_and_eq_and]
      exact or_congr_right (exists_congr fun m => and_congr_right fun hm => (hmembers m hm).2 c)
  | sequence _ ih =>
    obtain ⟨ts, hts, hall⟩ := ih
    exact ⟨ts, needs_brackets "list" (by decide) hts, hall⟩
  | record _ _ =>
    have hwords : ∀ text ∈ ["str", "Any"], text.toList.all isLetterOrDigit := by decide
    have hitems := needs_nothing fun text ht => needs_word (hwords text ht)
    have htext : "dict[str, Any]" = "dict" ++ "[" ++ commaSeparated ["str", "Any"] ++ "]" := by
      decide
    refine ⟨[.any], ?_, by simp [typingUsed]⟩
    rw [typeText, htext]
    exact needs_brackets "dict" (by decide) hitems
  | literals vs =>
    have hvalues : Needs (commaSeparated (vs.map literal)) [] :=
      needs_nothing (List.forall_mem_map.2 fun v _ => needs_literal v)
    exact ⟨[.literal], needs_brackets "Literal" (by decide) hvalues, by simp [typingUsed]⟩
  | primitive p =>
    refine ⟨[], needs_word ?_, by simp [typingUsed]⟩
    cases p <;> decide

/-- What a type needs can be read off its text. -/
theorem mem_typingIn_typeText {t : TypeExpr} (h : t.Memberless) {c : Typing} :
    c ∈ typingIn (typeText t) ↔ c ∈ typingUsed t := by
  obtain ⟨ts, hts, hall⟩ := needs_typeText h
  rw [hts.typingIn_eq]
  exact hall c

/-! ### Pieces -/

theorem length_firstSpelled (ts : List TypeExpr) :
    (firstSpelled (ts.map pieces)).length = (firstSeen (ts.map typeText)).length := by
  have hspell : (ts.map pieces).map spell = ts.map typeText := by
    rw [List.map_map]
    exact List.map_congr_left fun t _ => spell_pieces t
  rw [← hspell, ← map_spell_firstSpelled, List.length_map]

/-- The constructs among the pieces of a type are those that the type needs. -/
theorem typing_mem_pieces {t : TypeExpr} (h : t.Memberless) {c : Typing} :
    .typing c ∈ pieces t ↔ c ∈ typingUsed t := by
  induction h with
  | reference n => simp [pieces, typingUsed]
  | @union ms hne hms ih =>
    rw [pieces, mem_unionPieces (by simp), mem_typingUsed_union, piecesAll_eq_map,
      length_firstSpelled, Piece.typing.injEq]
    have hpos : 0 < (firstSeen (ms.map typeText)).length := by
      obtain ⟨t, rest, rfl⟩ := List.exists_cons_of_ne_nil hne
      exact Nat.succ_pos _
    refine or_congr (and_congr_right fun _ => by omega) ?_
    constructor
    · rintro ⟨p, hp, hc⟩
      obtain ⟨t, ht, rfl⟩ := List.mem_map.1 (mem_of_mem_firstSpelled hp)
      exact ⟨t, ht, (ih t ht).1 hc⟩
    · rintro ⟨t, ht, hc⟩
      -- the member that is written in place of `t` has its text, and so needs what `t` does
      have hmem : pieces t ∈ ms.map pieces := List.mem_map_of_mem ht
      obtain ⟨p, hp, hs⟩ := exists_mem_firstSpelled hmem
      obtain ⟨t', ht', rfl⟩ := List.mem_map.1 (mem_of_mem_firstSpelled hp)
      rw [spell_pieces, spell_pieces] at hs
      rw [← mem_typingIn_typeText (hms t ht), ← hs, mem_typingIn_typeText (hms t' ht')] at hc
      exact ⟨pieces t', hp, (ih t' ht').2 hc⟩
  | sequence _ ih => simpa [pieces, typingUsed] using ih
  | record _ _ => simp [pieces, typingUsed]
  | literals vs => simp [pieces, typingUsed, mem_applied]
  | primitive p => simp [pieces, typingUsed]

theorem typing_mem_annotationPieces {t : TypeExpr}
    (h : (∀ n m, t ≠ .reference n (some m)) → t.Memberless) {required : Bool} {c : Typing} :
    .typing c ∈ annotationPieces t required ↔
      c ∈ typingUsed t ++ if required then [] else [.notRequired] := by
  have hpieces : .typing c ∈ pieces t ↔ c ∈ typingUsed t := by
    by_cases hm : ∃ n m, t = .reference n (some m)
    · obtain ⟨n, m, rfl⟩ := hm
      simp [pieces, typingUsed, mem_applied]
    · simp only [not_exists] at hm
      exact typing_mem_pieces (h hm)
  rw [mem_annotationPieces (by simp), hpieces, List.mem_append]
  cases required <;> simp

end Python

end SchemaDecl
