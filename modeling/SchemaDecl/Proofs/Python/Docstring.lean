import Mathlib.Data.List.DropRight
import SchemaDecl.Proofs.Emission.Documentation

/-! Documentation strings as they are read. A literal between three double quotes ends at the first three
of them that no backslash escapes, so quotes at the end of a single line run into the delimiter behind
them, and all but a multiple of three are lost from the text. -/

namespace SchemaDecl

namespace Python

/-! ### Literals between three quotes -/

/-- What a backslash and the character behind it stand for. Escapes that give a character by its number
or its name are not read. -/
def escaped? : Char → Option (List Char)
  | '\n' => some []
  | '\\' => some ['\\']
  | '\'' => some ['\'']
  | '"' => some ['"']
  | 'a' => some ['\x07']
  | 'b' => some ['\x08']
  | 'f' => some ['\x0c']
  | 'n' => some ['\n']
  | 'r' => some ['\r']
  | 't' => some ['\t']
  | 'v' => some ['\x0b']
  | c => if c ∈ ['0', '1', '2', '3', '4', '5', '6', '7', 'x', 'u', 'U', 'N', '\x00', '\r'] then none
    else some ['\\', c]

/-- What is read of a literal, in front of what is read behind it. -/
def behind (v : List Char) (x : Option (List Char × List Char)) : Option (List Char × List Char) :=
  x.map fun p => (v ++ p.1, p.2)

/-- Reads a literal from behind its opening quotes: its text, and what follows its closing ones. Nothing
is read past a character that a module cannot hold, which with line feeds for line ends is a carriage
return, too. -/
def readBody : List Char → Option (List Char × List Char)
  | '"' :: '"' :: '"' :: rest => some ([], rest)
  | '\\' :: c :: rest => (escaped? c).bind fun v => behind v (readBody rest)
  | c :: rest => if c = '\x00' ∨ c = '\r' then none else behind [c] (readBody rest)
  | [] => none

def readLiteral : List Char → Option (List Char × List Char)
  | '"' :: '"' :: '"' :: rest => readBody rest
  | _ => none

/-- A line behind blanks, unless it is empty. -/
def indented (indent : Nat) (l : String) : String :=
  if l.isEmpty then "" else String.ofList (List.replicate indent ' ') ++ l

/-- The lines of a documentation string as one text, the second and later ones indented. -/
def docValue (indent : Nat) : List String → String
  | [] => ""
  | [l] => l
  | l :: rest =>
    l ++ "\n" ++ "\n".intercalate (rest.map (indented indent)) ++ "\n" ++
      String.ofList (List.replicate indent ' ')

/-- How many quotes a text ends with. -/
def quotesAtEnd (cs : List Char) : Nat :=
  (cs.rtakeWhile (· == '"')).length

@[simp] theorem behind_nil (x : Option (List Char × List Char)) : behind [] x = x := by
  cases x <;> rfl

@[simp] theorem behind_behind (v w : List Char) (x : Option (List Char × List Char)) :
    behind v (behind w x) = behind (v ++ w) x := by
  cases x <;> simp [behind]

/-- A character that neither closes the literal nor escapes the next one stands for itself. -/
theorem readBody_self {c : Char} {rest : List Char} (hc : c ≠ '\x00' ∧ c ≠ '\r' ∧ c ≠ '\\')
    (h : c = '"' → ¬['"', '"'] <+: rest) : readBody (c :: rest) = behind [c] (readBody rest) := by
  obtain ⟨hnul, hreturn, hb⟩ := hc
  rw [readBody, if_neg (by simp [hnul, hreturn])]
  · rintro r rfl rfl
    exact h rfl ⟨r, rfl⟩
  · rintro d r rfl
    exact (hb rfl).elim

theorem readBody_escape {c : Char} {v rest : List Char} (h : escaped? c = some v) :
    readBody ('\\' :: c :: rest) = behind v (readBody rest) := by
  rw [readBody, h, Option.bind_some]

/-! ### Quotes at the end -/

@[simp] theorem quotesAtEnd_nil : quotesAtEnd [] = 0 := by
  simp [quotesAtEnd]

theorem quotesAtEnd_of_forall {cs : List Char} (h : ∀ c ∈ cs, c = '"') : quotesAtEnd cs = cs.length := by
  rw [quotesAtEnd, List.rtakeWhile_eq_self_iff.2 (by simpa using h)]

/-- What stands in front of the quotes at the end does not count. -/
theorem quotesAtEnd_cons {c : Char} {cs : List Char} (h : c = '"' → ∃ d ∈ cs, d ≠ '"') :
    quotesAtEnd (c :: cs) = quotesAtEnd cs := by
  rw [quotesAtEnd, quotesAtEnd, List.rtakeWhile, List.rtakeWhile, List.length_reverse,
    List.length_reverse, List.reverse_cons, List.takeWhile_append]
  split
  next hall =>
    have hself := (List.takeWhile_prefix _).eq_of_length hall
    have hquotes : ∀ d ∈ cs, d = '"' := by simpa [List.takeWhile_eq_self_iff] using hself
    have hc : c ≠ '"' := by
      rintro rfl
      obtain ⟨d, hd, hne⟩ := h rfl
      exact hne (hquotes d hd)
    simp [hc, hall]
  next => rfl

theorem quotesAtEnd_le (cs : List Char) : quotesAtEnd cs ≤ cs.length := by
  rw [quotesAtEnd]
  exact (List.rtakeWhile_suffix _ _).length_le

/-- Quotes are escaped by threes, so this many at the end of a text stay as they are. -/
def bareQuotes (cs : List Char) : Nat :=
  quotesAtEnd cs % 3

theorem bareQuotes_le (cs : List Char) : bareQuotes cs ≤ cs.length :=
  (Nat.mod_le _ _).trans (quotesAtEnd_le cs)

theorem bareQuotes_cons {c : Char} {cs : List Char} (h : c = '"' → ∃ d ∈ cs, d ≠ '"') :
    bareQuotes (c :: cs) = bareQuotes cs := by
  rw [bareQuotes, quotesAtEnd_cons h, bareQuotes]

theorem bareQuotes_three (cs : List Char) : bareQuotes ('"' :: '"' :: '"' :: cs) = bareQuotes cs := by
  by_cases h : ∀ c ∈ cs, c = '"'
  · have hthree : ∀ c ∈ '"' :: '"' :: '"' :: cs, c = '"' := by simpa using h
    rw [bareQuotes, quotesAtEnd_of_forall hthree, bareQuotes, quotesAtEnd_of_forall h]
    exact Nat.add_mod_right cs.length 3
  · simp only [not_forall] at h
    obtain ⟨c, hc, hne⟩ := h
    rw [bareQuotes_cons fun _ => ⟨c, by simp [hc], hne⟩,
      bareQuotes_cons fun _ => ⟨c, by simp [hc], hne⟩, bareQuotes_cons fun _ => ⟨c, hc, hne⟩]

theorem rdrop_cons {c : Char} {cs : List Char} {n : Nat} (h : n ≤ cs.length) :
    (c :: cs).rdrop n = c :: cs.rdrop n := by
  rw [List.rdrop, List.rdrop, List.length_cons, Nat.succ_sub h, List.take_succ_cons]

/-! ### Escaped text -/

open Emitter (escapeDoc docstringAt docstring)

/-- Two quotes are in front of what follows an escaped text only if they are in front of the text, unless
this is nothing but quotes. -/
theorem not_prefix_escapeDoc {cs : List Char} (hcs : ¬['"', '"'] <+: cs) (h : ∃ c ∈ cs, c ≠ '"')
    (t : List Char) : ¬['"', '"'] <+: escapeDoc cs ++ t := by
  have hhead : ∀ {c : Char} {r : List Char}, c ≠ '"' → ¬['"'] <+: escapeDoc (c :: r) ++ t := by
    intro c r hc
    by_cases hb : c = '\\'
    · subst hb
      simp [escapeDoc]
    · rw [escapeDoc]
      · simp [hc.symm]
      · rintro r rfl
        exact absurd rfl hc
      · exact hb
  cases cs with
  | nil => simp at h
  | cons c r =>
    by_cases hc : c = '"'
    · subst hc
      cases r with
      | nil => simp at h
      | cons d r =>
        have hd : d ≠ '"' := by
          rintro rfl
          exact hcs (by simp)
        have hquote : escapeDoc ('"' :: d :: r) = '"' :: escapeDoc (d :: r) := by
          rw [escapeDoc]
          · rintro r' - hr
            exact hd (List.cons.inj hr).1
          · decide
        rw [hquote, List.cons_append, List.cons_prefix_cons]
        exact fun h => hhead hd h.2
    · intro h
      exact hhead hc (List.IsPrefix.trans (by simp) h)

theorem readBody_escapeDoc {cs : List Char} (h : ∀ c ∈ cs, c ≠ '\x00' ∧ c ≠ '\r') (t : List Char) :
    readBody (escapeDoc cs ++ t) =
      behind (cs.rdrop (bareQuotes cs)) (readBody (List.replicate (bareQuotes cs) '"' ++ t)) := by
  fun_induction escapeDoc cs with
  | case1 cs ih =>
    simp only [List.forall_mem_cons] at h
    have hescape : ∀ s, readBody ('\\' :: '"' :: s) = behind ['"'] (readBody s) := fun s =>
      readBody_escape rfl
    have hle := bareQuotes_le cs
    simp only [List.cons_append, hescape, ih h.2.2.2, behind_behind, bareQuotes_three]
    rw [rdrop_cons (by simp; omega), rdrop_cons (by simp; omega), rdrop_cons hle]
    rfl
  | case2 cs ih =>
    rw [List.cons_append, List.cons_append, readBody_escape rfl, ih (List.forall_mem_cons.1 h).2,
      behind_behind, bareQuotes_cons (by simp), rdrop_cons (bareQuotes_le cs)]
    rfl
  | case3 c cs hthree hb ih =>
    obtain ⟨hc, hcs⟩ := List.forall_mem_cons.1 h
    by_cases hq : c = '"' ∧ ∀ d ∈ cs, d = '"'
    · obtain ⟨rfl, hall⟩ := hq
      match cs, hall, hthree with
      | [], _, _ => exact (behind_nil _).symm
      | [d], hall, _ =>
        obtain rfl := hall d List.mem_cons_self
        exact (behind_nil _).symm
      | d :: e :: r, hall, hthree =>
        obtain ⟨rfl, rfl, -⟩ : d = '"' ∧ e = '"' ∧ ∀ c ∈ r, c = '"' := by simpa using hall
        exact (hthree r rfl rfl).elim
    · have hquote : c = '"' → ∃ d ∈ cs, d ≠ '"' := by
        intro hc
        simpa [hc] using hq
      rw [List.cons_append, readBody_self ⟨hc.1, hc.2, hb⟩, ih hcs, behind_behind,
        bareQuotes_cons hquote, rdrop_cons (bareQuotes_le cs)]
      · rfl
      · intro hc
        refine not_prefix_escapeDoc ?_ (hquote hc) t
        rintro ⟨r, rfl⟩
        exact hthree r hc rfl
  | case4 => simp [bareQuotes]

/-- A text in front of the closing quotes is read without its last quotes, which are left behind them. -/
theorem readBody_closed {cs : List Char} (h : ∀ c ∈ cs, c ≠ '\x00' ∧ c ≠ '\r') (rest : List Char) :
    readBody (escapeDoc cs ++ '"' :: '"' :: '"' :: rest) =
      some (cs.rdrop (bareQuotes cs), List.replicate (bareQuotes cs) '"' ++ rest) := by
  have hswap : List.replicate (bareQuotes cs) '"' ++ List.replicate 3 '"' =
      List.replicate 3 '"' ++ List.replicate (bareQuotes cs) '"' := by
    rw [List.replicate_append_replicate, List.replicate_append_replicate, Nat.add_comm]
  have hquotes : List.replicate (bareQuotes cs) '"' ++ '"' :: '"' :: '"' :: rest =
      '"' :: '"' :: '"' :: (List.replicate (bareQuotes cs) '"' ++ rest) :=
    (List.append_assoc _ (List.replicate 3 '"') rest).symm.trans
      ((congrArg (· ++ rest) hswap).trans (List.append_assoc _ _ _))
  rw [readBody_escapeDoc h, hquotes, readBody, behind, Option.map_some, List.append_nil]

theorem rdrop_append_bareQuotes (cs : List Char) :
    cs.rdrop (bareQuotes cs) ++ List.replicate (bareQuotes cs) '"' = cs := by
  induction cs with
  | nil => rfl
  | cons c cs ih =>
    by_cases hq : c = '"' ∧ ∀ d ∈ cs, d = '"'
    · obtain ⟨n, hn⟩ : ∃ n, c :: cs = List.replicate n '"' :=
        ⟨_, List.eq_replicate_of_mem (List.forall_mem_cons.2 hq)⟩
      have hle := bareQuotes_le (c :: cs)
      rw [hn, List.length_replicate] at hle
      rw [hn, List.rdrop, List.length_replicate, List.take_replicate,
        List.replicate_append_replicate]
      exact congrArg (List.replicate · '"') (by omega)
    · have hquote : c = '"' → ∃ d ∈ cs, d ≠ '"' := by
        intro hc
        simpa [hc] using hq
      rw [bareQuotes_cons hquote, rdrop_cons (bareQuotes_le cs), List.cons_append, ih]

/-- In front of any other character a text is read as it is. -/
theorem readBody_line {cs : List Char} (h : ∀ c ∈ cs, c ≠ '\x00' ∧ c ≠ '\r') {x : Char} (hx : x ≠ '"')
    (rest : List Char) : readBody (escapeDoc cs ++ x :: rest) = behind cs (readBody (x :: rest)) := by
  have hquotes : ∀ n < 3, readBody (List.replicate n '"' ++ x :: rest) =
      behind (List.replicate n '"') (readBody (x :: rest)) := by
    have hself : ∀ s, ¬['"', '"'] <+: s → readBody ('"' :: s) = behind ['"'] (readBody s) := fun s hs =>
      readBody_self (by decide) fun _ => hs
    intro n hn
    match n, hn with
    | 0, _ => simp
    | 1, _ => exact hself _ (by simp [hx.symm])
    | 2, _ =>
      rw [List.replicate_succ, List.cons_append, hself _ (by simp [hx.symm]), List.replicate_one,
        List.singleton_append, hself _ (by simp [hx.symm]), behind_behind]
      rfl
  rw [readBody_escapeDoc h, hquotes (bareQuotes cs) (Nat.mod_lt _ (by decide)), behind_behind,
    rdrop_append_bareQuotes]

/-! ### Documentation strings -/

/-- A line that a module can hold. -/
def IsLine (l : String) : Prop :=
  ∀ c ∈ l.toList, c ≠ '\x00' ∧ c ≠ '\r'

def escapeLine (l : String) : String :=
  String.ofList (escapeDoc l.toList)

theorem readBody_blanks (n : Nat) (rest : List Char) :
    readBody (List.replicate n ' ' ++ rest) = behind (List.replicate n ' ') (readBody rest) := by
  have hself : ∀ s, readBody (' ' :: s) = behind [' '] (readBody s) := fun s =>
    readBody_self (by decide) nofun
  induction n with
  | zero => exact (behind_nil _).symm
  | succ n ih =>
    rw [List.replicate_succ, List.cons_append, hself, ih, behind_behind]
    rfl

theorem readBody_feed (rest : List Char) : readBody ('\n' :: rest) = behind ['\n'] (readBody rest) :=
  readBody_self (by decide) nofun

theorem isEmpty_escapeLine (l : String) : (escapeLine l).isEmpty = l.isEmpty := by
  have hnil : ∀ cs, escapeDoc cs = [] ↔ cs = [] := by
    intro cs
    fun_cases escapeDoc cs <;> simp
  rw [Bool.eq_iff_iff, String.isEmpty_iff, String.isEmpty_iff, escapeLine, ← String.toList_inj,
    ← String.toList_inj, String.toList_ofList]
  exact hnil _

theorem readBody_indented {l : String} (h : IsLine l) (indent : Nat) (rest : List Char) :
    readBody ((indented indent (escapeLine l)).toList ++ '\n' :: rest) =
      behind (indented indent l).toList (readBody ('\n' :: rest)) := by
  rw [indented, indented, isEmpty_escapeLine]
  split
  · exact (behind_nil _).symm
  · rw [String.toList_append, String.toList_append, String.toList_ofList, List.append_assoc,
      readBody_blanks, escapeLine, String.toList_ofList, readBody_line h (by decide), behind_behind]

theorem readBody_lines (indent : Nat) {ls : List String} (h : ∀ l ∈ ls, IsLine l) (rest : List Char) :
    readBody (("\n".intercalate ((ls.map escapeLine).map (indented indent))).toList ++ '\n' :: rest) =
      behind ("\n".intercalate (ls.map (indented indent))).toList (readBody ('\n' :: rest)) := by
  induction ls with
  | nil => exact (behind_nil _).symm
  | cons l ls ih =>
    obtain ⟨hl, hls⟩ := List.forall_mem_cons.1 h
    cases ls with
    | nil =>
      simp only [List.map_cons, List.map_nil, String.intercalate_singleton]
      exact readBody_indented hl indent rest
    | cons k ls =>
      simp only [List.map_cons, String.intercalate_cons_cons, String.toList_append,
        List.append_assoc] at ih ⊢
      have hfeed : ∀ s : List Char, "\n".toList ++ s = '\n' :: s := fun s => rfl
      rw [hfeed, readBody_indented hl, readBody_feed, ih hls, behind_behind, behind_behind, hfeed,
        List.append_assoc]
      rfl

/-- How many quotes of a documentation string run into its delimiter. -/
def looseQuotes : List String → Nat
  | [l] => bareQuotes l.toList
  | _ => 0

/-- A documentation string is read as its lines but for the loose quotes, which are left behind it. -/
theorem readLiteral_docstringAt (indent : Nat) {ls : List String} (hne : ls ≠ [])
    (h : ∀ l ∈ ls, IsLine l) (rest : List Char) :
    readLiteral ((docstringAt indent ls).toList ++ rest) =
      some ((docValue indent ls).toList.rdrop (looseQuotes ls),
        List.replicate (looseQuotes ls) '"' ++ rest) := by
  match ls, hne, h with
  | [l], _, h =>
    have hl : IsLine l := h l List.mem_cons_self
    have htext : (docstringAt indent [l]).toList ++ rest =
        '"' :: '"' :: '"' :: (escapeDoc l.toList ++ '"' :: '"' :: '"' :: rest) := by
      simp [docstringAt]
    rw [htext, readLiteral, readBody_closed hl, docValue, looseQuotes]
  | l :: k :: ls, _, h =>
    obtain ⟨hl, hls⟩ := List.forall_mem_cons.1 h
    have htext : (docstringAt indent (l :: k :: ls)).toList ++ rest =
        '"' :: '"' :: '"' :: (escapeDoc l.toList ++ '\n' ::
          (("\n".intercalate (((k :: ls).map escapeLine).map (indented indent))).toList ++ '\n' ::
            (List.replicate indent ' ' ++ '"' :: '"' :: '"' :: rest))) := by
      have hlambda : (fun l => if l.isEmpty then "" else String.ofList (List.replicate indent ' ') ++ l) =
          indented indent := rfl
      simp only [docstringAt, List.map_cons, hlambda, String.toList_append, String.toList_ofList,
        List.append_assoc]
      rfl
    rw [htext, readLiteral, readBody_line hl (by decide), readBody_feed, readBody_lines indent hls,
      readBody_feed, readBody_blanks, readBody]
    simp [behind, docValue, looseQuotes]

/-- It is read in full if it has several lines, or if the quotes at the end of the only one are a multiple
of three. -/
theorem looseQuotes_eq_zero_iff {ls : List String} :
    looseQuotes ls = 0 ↔ ∀ l, ls = [l] → 3 ∣ quotesAtEnd l.toList := by
  match ls with
  | [] => simp [looseQuotes]
  | [l] => simp [looseQuotes, bareQuotes, Nat.dvd_iff_mod_eq_zero]
  | l :: k :: ls => simp [looseQuotes]

theorem readLiteral_docstringAt_iff (indent : Nat) {ls : List String} (hne : ls ≠ [])
    (h : ∀ l ∈ ls, IsLine l) (rest : List Char) :
    readLiteral ((docstringAt indent ls).toList ++ rest) = some ((docValue indent ls).toList, rest) ↔
      ∀ l, ls = [l] → 3 ∣ quotesAtEnd l.toList := by
  rw [readLiteral_docstringAt indent hne h, ← looseQuotes_eq_zero_iff, Option.some.injEq, Prod.mk.injEq]
  constructor
  · rintro ⟨-, hrest⟩
    simpa using hrest
  · intro hzero
    simp [hzero]

theorem behind_eq_some {v w rest : List Char} {x : Option (List Char × List Char)}
    (h : behind v x = some (w, rest)) : ∃ u, x = some (u, rest) ∧ w = v ++ u := by
  obtain ⟨⟨u, r⟩, rfl, hu⟩ := Option.map_eq_some_iff.1 h
  cases hu
  exact ⟨u, rfl, rfl⟩

theorem nul_notMem_of_escaped? {c : Char} {v : List Char} (h : escaped? c = some v) : '\x00' ∉ v := by
  unfold escaped? at h
  split at h
  case h_12 =>
    obtain ⟨hc, ⟨⟩⟩ := Option.ite_none_left_eq_some.1 h
    have hne : '\x00' ≠ c := by
      rintro rfl
      exact hc (by decide)
    simp [hne]
  all_goals
    cases h
    decide

/-- No literal is read as a text with a null character in it. -/
theorem nul_notMem_of_readBody {s v rest : List Char} (h : readBody s = some (v, rest)) :
    '\x00' ∉ v := by
  fun_induction readBody s generalizing v rest with
  | case1 s =>
    cases h
    exact List.not_mem_nil
  | case2 c s ih =>
    obtain ⟨w, hw, h⟩ := Option.bind_eq_some_iff.1 h
    obtain ⟨u, hu, rfl⟩ := behind_eq_some h
    rw [List.mem_append, not_or]
    exact ⟨nul_notMem_of_escaped? hw, ih hu⟩
  | case3 c s hquotes hb hc => cases h
  | case4 c s hquotes hb hc ih =>
    obtain ⟨u, hu, rfl⟩ := behind_eq_some h
    rw [List.singleton_append, List.mem_cons, not_or]
    exact ⟨fun hnul => hc (Or.inl hnul.symm), ih hu⟩
  | case5 => cases h

theorem nul_notMem_of_readLiteral {s v rest : List Char} (h : readLiteral s = some (v, rest)) :
    '\x00' ∉ v := by
  rw [readLiteral.eq_def] at h
  split at h
  next => exact nul_notMem_of_readBody h
  next => cases h

theorem mem_indented {c : Char} {l : String} (hc : c ∈ l.toList) (indent : Nat) :
    c ∈ (indented indent l).toList := by
  have hne : l.isEmpty = false := by
    rw [Bool.eq_false_iff]
    intro he
    rw [String.isEmpty_iff] at he
    simp [he] at hc
  rw [indented, hne]
  simp [hc]

/-- Every character of the lines is in the text that a documentation string is meant to have. -/
theorem mem_docValue {ls : List String} {l : String} (hl : l ∈ ls) {c : Char} (hc : c ∈ l.toList)
    (indent : Nat) : c ∈ (docValue indent ls).toList := by
  match ls, hl with
  | [k], hl => rwa [docValue, ← List.mem_singleton.1 hl]
  | j :: k :: ls, hl =>
    rw [docValue]
    · rcases List.mem_cons.1 hl with rfl | hl
      · simp [hc]
      · have hmem := @mem_intercalate_of_mem _ _ "\n".toList _ _
          (List.mem_map_of_mem (List.mem_map_of_mem hl)) (mem_indented hc indent)
        simp only [String.toList_append, String.toList_intercalate, List.mem_append]
        exact Or.inl (Or.inl (Or.inr hmem))
    · exact List.cons_ne_nil k ls

end Python

namespace Emitter

open Python

theorem solid_nul : Solid ['\x00'] where
  ne_nil := nofun
  blank_notMem := List.forall_mem_singleton.2 (by decide)
  opening_notMem := by decide
  closing_notMem := by decide

section Declarations

variable {t : Target} {description : Option String} {sample : Value} {docs : List String}

/-- A null character in documentation comes from the description, since examples have it escaped. -/
theorem nul_mem_declarationDoc_iff (h : t.declarationDoc description sample = .ok docs) :
    (∃ l ∈ docs, '\x00' ∈ l.toList) ↔ '\x00' ∈ (description.getD "").toList := by
  have htag : ¬['\x00'] <:+: t.sampleTag.toList := by
    cases t <;> simp [Target.sampleTag, List.singleton_infix_iff]
  have hsample : ¬WrittenWith ['\x00'] (Target.shownSample sample) := by
    rintro ⟨v, -, text, hv, hnul⟩
    exact absurd (Json.noControls_example hv '\x00' (hnul.subset List.mem_cons_self)) (by decide)
  have hstands := Target.standsIn_declarationDoc solid_nul htag h
  simpa only [StandsIn, List.singleton_infix_iff, or_iff_left hsample] using hstands

theorem isLine_of_mem_declarationDoc (h : t.declarationDoc description sample = .ok docs)
    (hnul : '\x00' ∉ (description.getD "").toList) : ∀ l ∈ docs, IsLine l := by
  intro l hl c hc
  refine ⟨?_, (Target.unbroken_declarationDoc h l hl c hc).2⟩
  rintro rfl
  exact hnul ((nul_mem_declarationDoc_iff h).1 ⟨l, hl, hc⟩)

theorem readLiteral_docstring_iff (h : t.declarationDoc description sample = .ok docs) (hne : docs ≠ [])
    (rest : List Char) :
    readLiteral ((docstring docs).toList ++ rest) = some ((docValue 4 docs).toList, rest) ↔
      '\x00' ∉ (description.getD "").toList ∧ ∀ l, docs = [l] → 3 ∣ quotesAtEnd l.toList := by
  by_cases hnul : '\x00' ∈ (description.getD "").toList
  · refine iff_of_false (fun hread => ?_) fun hmem => hmem.1 hnul
    obtain ⟨l, hl, hmem⟩ := (nul_mem_declarationDoc_iff h).2 hnul
    exact nul_notMem_of_readLiteral hread (mem_docValue hl hmem 4)
  · rw [docstring, readLiteral_docstringAt_iff 4 hne (isLine_of_mem_declarationDoc h hnul),
      and_iff_right hnul]

end Declarations

/-- The lines of the class of a record around its documentation string. -/
theorem exists_pythonClass (e : Emitter) (name : String) (s : Synthesis) {fields : List Field}
    (he : e.target = .python) (hs : s.type = .record fields) (hf : ∀ f ∈ fields, isFieldName f.name)
    (imports : List String) :
    ∃ before after, ∀ docs, docs ≠ [] →
      e.declarationLines name imports docs s = before ++ ("    " ++ docstring docs) :: after := by
  have hall : fields.all (fun f => isFieldName f.name) = true := by simpa using hf
  refine ⟨pythonHead e.header (Typing.names (pythonTyping (!imports.isEmpty) s.type)) imports ++
    ["class " ++ name ++ "(TypedDict):"],
    (if fields.isEmpty then [] else [""]) ++
      (fields.flatMap fun f =>
        (fieldDoc f.doc).map (fun line => "    " ++ remark line) ++
          ["    " ++ f.name ++ ": " ++ fieldAnnotation f.type f.required]) ++ pythonLift name,
    fun docs hne => ?_⟩
  rw [declarationLines, he, pythonDeclaration, hs]
  dsimp only
  rw [if_pos hall, pythonClass, if_neg (by simpa using hne)]
  simp only [List.append_assoc, List.cons_append, List.nil_append]

/-- A documentation string is read as its lines but for the loose quotes: those at the end of its only
line that are left over after as many threes of them as there are. It is one literal, and the text of it
is that of the lines, exactly if there are none. The class of a record stays the same around it. -/
theorem docstring_complete_iff (indent : Nat) (ls : List String) (hne : ls ≠ [])
    (h : ∀ l ∈ ls, IsLine l) :
    (∀ rest, readLiteral ((docstringAt indent ls).toList ++ rest) =
          some ((docValue indent ls).toList.rdrop (looseQuotes ls),
            List.replicate (looseQuotes ls) '"' ++ rest) ∧
        (readLiteral ((docstringAt indent ls).toList ++ rest) =
            some ((docValue indent ls).toList, rest) ↔
          ∀ l, ls = [l] → 3 ∣ quotesAtEnd l.toList)) ∧
      ∀ (e : Emitter) (n : Name) (s : Synthesis) (fields : List Field), e.target = .python →
        s.type = .record fields → (∀ f ∈ fields, isFieldName f.name) →
        ∃ before after, ∀ (x : Definition) (m : Module), e.declaration n x s = .ok m →
          ∃ docs, e.target.declarationDoc x.notes.description x.notes.sample = .ok docs ∧
            (docs ≠ [] →
              m.source.toList = before ++ (docstring docs).toList ++ after ∧
                (readLiteral ((docstring docs).toList ++ after) =
                    some ((docValue 4 docs).toList, after) ↔
                  '\x00' ∉ (x.notes.description.getD "").toList ∧
                    ∀ l, docs = [l] → 3 ∣ quotesAtEnd l.toList)) := by
  refine ⟨fun rest => ⟨readLiteral_docstringAt indent hne h rest,
    readLiteral_docstringAt_iff indent hne h rest⟩, ?_⟩
  intro e n s fields he hs hf
  cases n with
  | other v => exact ⟨[], [], fun x m hm => nomatch hm⟩
  | text name =>
    obtain ⟨before, after, hlines⟩ := exists_pythonClass e (Identifier.ofName name) s he hs hf
      (e.importLines s.deps (some (.text name)))
    refine ⟨(unlines before ++ "    ").toList, ("\n" ++ unlines after).toList, fun x m hm => ?_⟩
    obtain ⟨docs, hdocs, hsource⟩ := exists_docs_of_declaration hm
    refine ⟨docs, hdocs, fun hne => ⟨?_, readLiteral_docstring_iff hdocs hne _⟩⟩
    rw [hsource, hlines docs hne, unlines_append, unlines_cons]
    simp only [String.toList_append, List.append_assoc]

/-- An empty object with a description. -/
def described (description : String) : Definition :=
  { ref := none, oneOf := none, type := some "object", enum := none, items := none, properties := none,
    required := [],
    notes := { description := some description, sample := .null, format := none, fallback := .null } }

theorem docstring_complete_iff_note :
    (∀ rest, readLiteral ((docstringAt 2 ["\"\"\"", "\\\""]).toList ++ rest) =
      some ("\"\"\"\n  \\\"\n  ".toList, rest)) ∧
      ∃ before after m,
        pythonEmitter.declaration (.text "Note") (described "Say \"hi\".") ⟨.record [], []⟩ = .ok m ∧
        m.source.toList = before ++ (docstring ["Say \"hi\"."]).toList ++ after ∧
        readLiteral ((docstring ["Say \"hi\"."]).toList ++ after) =
          some ("Say \"hi\".".toList, after) := by
  have hlines : ∀ l ∈ ["\"\"\"", "\\\""], IsLine l := by simp [IsLine]
  obtain ⟨hliteral, hrecord⟩ := docstring_complete_iff 2 _ (List.cons_ne_nil _ _) hlines
  constructor
  · exact fun rest => (hliteral rest).2.2 (by simp)
  · obtain ⟨before, after, h⟩ := hrecord pythonEmitter (.text "Note") ⟨.record [], []⟩ [] rfl rfl nofun
    obtain ⟨m, hm⟩ : ∃ m, pythonEmitter.declaration (.text "Note") (described "Say \"hi\".")
        ⟨.record [], []⟩ = .ok m := ⟨_, rfl⟩
    obtain ⟨docs, hdocs, hread⟩ := h _ m hm
    have hdocs' : Target.python.declarationDoc (some "Say \"hi\".") .null = .ok ["Say \"hi\"."] := by
      decide
    obtain rfl : ["Say \"hi\"."] = docs := Except.ok.inj (hdocs'.symm.trans hdocs)
    obtain ⟨hsource, hiff⟩ := hread (List.cons_ne_nil _ _)
    refine ⟨before, after, m, hm, hsource, hiff.2 ⟨by decide, ?_⟩⟩
    rintro l ⟨⟩
    decide

/-- The quote at the end of a line closes the literal early. -/
theorem docstring_left_open_hi :
    (∀ l ∈ ["Say \"hi\""], ∀ c ∈ l.toList, c ≠ '\n' ∧ c ≠ '\r' ∧ c ≠ '\x00') ∧
      readLiteral (docstringAt 4 ["Say \"hi\""]).toList = some ("Say \"hi".toList, ['"']) ∧
      docValue 4 ["Say \"hi\""] = "Say \"hi\"" := by
  refine ⟨by simp, by decide, rfl⟩

end Emitter

end SchemaDecl
