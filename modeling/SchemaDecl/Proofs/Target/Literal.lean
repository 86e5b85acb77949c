import SchemaDecl.Proofs.Json.Quoted
import SchemaDecl.Target

/-! Literals as the languages read them. Both know texts between double quotes and agree on a few escapes
behind a backslash, but not on others, nor on what may stand there for itself, nor on the units that
a string is made of: characters in one, and in the other units of two bytes, two of them for a character
beyond the first plane. A literal keeps to what both read alike, and so denotes its text in either. -/

namespace SchemaDecl

namespace Target

/-! ### Units -/

/-- The units of a string for the character of a number. -/
def unitsOf (t : Target) (n : Nat) : List Nat :=
  match t with
  | .python => [n]
  | .typescript =>
    if n < 0x10000 then [n]
    else [0xD800 + (n - 0x10000) / 1024, 0xDC00 + (n - 0x10000) % 1024]

def units (t : Target) (c : Char) : List Nat :=
  t.unitsOf c.toNat

/-- The string that a text is. -/
def denotation (t : Target) (s : String) : List Nat :=
  s.toList.flatMap t.units

theorem units_ne_nil (t : Target) (c : Char) : t.units c ≠ [] := by
  unfold units unitsOf
  cases t with
  | python => exact List.cons_ne_nil _ _
  | typescript =>
    dsimp only
    split <;> exact List.cons_ne_nil _ _

theorem unitsOf_append_inj {t : Target} {m n : Nat} (hm : m < 0xD800 ∨ 0xE000 ≤ m ∧ m < 0x110000)
    (hn : n < 0xD800 ∨ 0xE000 ≤ n ∧ n < 0x110000) {us vs : List Nat}
    (h : t.unitsOf m ++ us = t.unitsOf n ++ vs) : m = n ∧ us = vs := by
  cases t with
  | python =>
    obtain ⟨hmn, hrest⟩ := List.cons.inj h
    exact ⟨hmn, hrest⟩
  | typescript =>
    unfold unitsOf at h
    dsimp only at h
    -- no number is both that of a character and one of the two for a character beyond the first plane
    split at h <;> split at h <;>
      simp only [List.cons_append, List.nil_append, List.cons.injEq] at h
    · exact h
    · omega
    · omega
    · obtain ⟨hlead, htrail, hrest⟩ := h
      exact ⟨by omega, hrest⟩

/-- Different texts are different strings. -/
theorem denotation_inj {t : Target} {s s' : String} (h : t.denotation s = t.denotation s') : s = s' := by
  have hchars : ∀ cs ds : List Char, cs.flatMap t.units = ds.flatMap t.units → cs = ds := by
    intro cs
    induction cs with
    | nil =>
      intro ds hds
      cases ds with
      | nil => rfl
      | cons d ds =>
        rw [List.flatMap_cons, List.flatMap_nil, eq_comm, List.append_eq_nil_iff] at hds
        exact absurd hds.1 (t.units_ne_nil d)
    | cons c cs ih =>
      intro ds hds
      cases ds with
      | nil =>
        rw [List.flatMap_cons, List.flatMap_nil, List.append_eq_nil_iff] at hds
        exact absurd hds.1 (t.units_ne_nil c)
      | cons d ds =>
        rw [List.flatMap_cons, List.flatMap_cons] at hds
        have hc := Text.toNat_char_bounds c
        have hd := Text.toNat_char_bounds d
        obtain ⟨hcd, hrest⟩ := unitsOf_append_inj (by omega) (by omega) hds
        rw [Char.toNat_inj.1 hcd, ih ds hrest]
  exact String.toList_inj.1 (hchars _ _ h)

/-! ### Escapes -/

/-- The number that hexadecimal digits write. -/
def hexNumber? (ds : List Char) : Option Nat :=
  ds.foldlM (fun n d => (Json.hexValue? d).map fun k => 16 * n + k) 0

/-- The units of a character that a language has. -/
def numbered? (t : Target) (n : Nat) : Option (List Nat) :=
  if n ≤ 0x10FFFF then some (t.unitsOf n) else none

/-- An escape by a letter and this many digits: its units, and how many characters it takes. -/
def byDigits (t : Target) (width : Nat) (ds : List Char) : Option (List Nat × Nat) :=
  if ds.length < width then none
  else ((hexNumber? (ds.take width)).bind t.numbered?).map fun us => (us, width + 1)

/-- How many characters of a text are the end of a line. -/
def lineEnd (t : Target) : List Char → Nat
  | '\r' :: '\n' :: _ => 2
  | c :: _ =>
    if c = '\n' ∨ c = '\r' ∨ t = .typescript ∧ (c = '\u2028' ∨ c = '\u2029') then 1 else 0
  | [] => 0

/-- What stands behind a backslash for one character in both languages. -/
def letters : List (Char × Nat) :=
  [('"', 34), ('\'', 39), ('\\', 92), ('b', 8), ('f', 12), ('n', 10), ('r', 13), ('t', 9), ('v', 11)]

def isOctal (c : Char) : Bool :=
  '0' ≤ c && c ≤ '7'

/-- A character behind a backslash in Python: up to three octal digits or a fixed number of
hexadecimal ones, and otherwise the backslash is kept. Escapes by the name of a character are not
read. -/
def pythonEscape? (c : Char) (cs : List Char) : Option (List Nat × Nat) :=
  if c = 'a' then some ([7], 1)
  else if c = 'x' then byDigits .python 2 cs
  else if c = 'u' then byDigits .python 4 cs
  else if c = 'U' then byDigits .python 8 cs
  else if c = 'N' ∨ c = '\x00' then none
  else if isOctal c then
    let ds := ((c :: cs).take 3).takeWhile isOctal
    some ([ds.foldl (fun n d => 8 * n + (d.toNat - 48)) 0], ds.length)
  else some ([92, c.toNat], 1)

/-- A character behind a backslash in TypeScript: a zero before no other digit, hexadecimal digits, which
may stand in braces, and otherwise the character itself. -/
def typescriptEscape? (c : Char) (cs : List Char) : Option (List Nat × Nat) :=
  if c = '0' then if cs.head?.any Char.isDigit then none else some ([0], 1)
  else if c.isDigit then none
  else if c = 'x' then byDigits .typescript 2 cs
  else if c = 'u' then
    match cs with
    | '\x7b' :: ds =>
      let number := ds.takeWhile fun d => d != '\x7d'
      if number.isEmpty || number.length == ds.length then none
      else ((hexNumber? number).bind Target.typescript.numbered?).map fun us => (us, number.length + 3)
    | _ => byDigits .typescript 4 cs
  else some (Target.typescript.units c, 1)

/-- What is behind a backslash: the units that it stands for, and how many characters it takes. -/
def escape? (t : Target) (cs : List Char) : Option (List Nat × Nat) :=
  if t.lineEnd cs = 0 then
    match cs with
    | [] => none
    | c :: rest =>
      match letters.lookup c with
      | some n => some ([n], 1)
      | none =>
        match t with
        | .python => pythonEscape? c rest
        | .typescript => typescriptEscape? c rest
  else some ([], t.lineEnd cs)

/-! ### Literals -/

/-- Characters that do not stand for themselves between quotes. -/
def forbidden : Target → List Char
  | .python => ['\n', '\r', '\x00']
  | .typescript => ['\n', '\r']

/-- What is read in front of more. -/
def prepend (us : List Nat) (x : Option (List Nat × List Char)) : Option (List Nat × List Char) :=
  x.map fun p => (us ++ p.1, p.2)

/-- Reads a literal from behind its opening quote, after so many characters that belong to an escape:
its string, and what follows the closing quote. -/
def readBody (t : Target) : Nat → List Char → Option (List Nat × List Char)
  | _, [] => none
  | n + 1, _ :: cs => readBody t n cs
  | 0, c :: cs =>
    if c = '"' then some ([], cs)
    else if c = '\\' then (t.escape? cs).bind fun e => prepend e.1 (readBody t e.2 cs)
    else if c ∈ t.forbidden then none
    else prepend (t.units c) (readBody t 0 cs)

/-- Reads a literal that a text begins with. Three quotes begin another kind of literal in Python. -/
def readLiteral (t : Target) (cs : List Char) : Option (List Nat × List Char) :=
  match cs with
  | '"' :: rest => if t = .python ∧ ['"', '"'].isPrefixOf rest then none else t.readBody 0 rest
  | _ => none

example : Target.python.readLiteral "\"\\x41\\101\\q\\u00e9\" rest".toList =
    some ([65, 65, 92, 113, 233], " rest".toList) := by
  decide +kernel

example : Target.typescript.readLiteral "\"\\x41\\q\\u\x7b1f600\x7d\"".toList =
    some ([65, 113, 0xD83D, 0xDE00], []) := by
  decide +kernel

@[simp] theorem prepend_nil (x : Option (List Nat × List Char)) : prepend [] x = x := by
  cases x <;> rfl

@[simp] theorem prepend_prepend (us vs : List Nat) (x : Option (List Nat × List Char)) :
    prepend us (prepend vs x) = prepend (us ++ vs) x := by
  cases x <;> simp [prepend]

section Reading

variable (t : Target)

theorem readBody_escape {cs : List Char} {us : List Nat} {n : Nat} (h : t.escape? cs = some (us, n)) :
    t.readBody 0 ('\\' :: cs) = prepend us (t.readBody n cs) := by
  rw [readBody, if_neg (by decide), if_pos rfl, h, Option.bind_some]

theorem readBody_letter {e : Char} {n : Nat} (h : (e, n) ∈ letters) (rest : List Char) :
    t.readBody 0 ('\\' :: e :: rest) = prepend [n] (t.readBody 0 rest) := by
  have hletter : t.escape? (e :: rest) = some ([n], 1) := by
    simp only [letters, List.mem_cons, Prod.mk.injEq, List.not_mem_nil, or_false] at h
    rcases h with ⟨rfl, rfl⟩ | ⟨rfl, rfl⟩ | ⟨rfl, rfl⟩ | ⟨rfl, rfl⟩ | ⟨rfl, rfl⟩ | ⟨rfl, rfl⟩ |
      ⟨rfl, rfl⟩ | ⟨rfl, rfl⟩ | ⟨rfl, rfl⟩ <;> cases t <;> rfl
  rw [t.readBody_escape hletter, readBody]

theorem readBody_unit {n : Nat} (h : n < 32) (rest : List Char) :
    t.readBody 0 (Text.unitEscape n ++ rest) = prepend [n] (t.readBody 0 rest) := by
  have hdigits : ∀ k < 32, ∃ b c d, Text.hex 4 k = ['0', b, c, d] ∧
      hexNumber? ['0', b, c, d] = some k := by
    intro k hk
    have hall : ∀ k < 32, (Text.hex 4 k).head? = some '0' ∧ (Text.hex 4 k).length = 4 ∧
        hexNumber? (Text.hex 4 k) = some k := by
      decide +kernel
    obtain ⟨hhead, hlength, hnumber⟩ := hall k hk
    match hs : Text.hex 4 k, hlength with
    | [a, b, c, d], _ =>
      rw [hs] at hhead hnumber
      cases hhead
      exact ⟨b, c, d, rfl, hnumber⟩
  obtain ⟨b, c, d, hs, hnumber⟩ := hdigits n h
  have hunits : t.numbered? n = some [n] := by
    have hlt : n < 0x10000 := by omega
    have hle : n ≤ 0x10FFFF := by omega
    rw [numbered?, if_pos hle]
    cases t with
    | python => rfl
    | typescript => rw [unitsOf, if_pos hlt]
  have hfour : t.byDigits 4 ('0' :: b :: c :: d :: rest) = some ([n], 5) := by
    simp [byDigits, hnumber, hunits]
  have hescape : t.escape? ('u' :: '0' :: b :: c :: d :: rest) = some ([n], 5) := by
    cases t with
    | python => exact hfour
    | typescript => exact hfour
  rw [Text.unitEscape, hs]
  exact t.readBody_escape hescape

/-- A character between quotes is read as itself. -/
theorem readBody_quoteChar (c : Char) (rest : List Char) :
    t.readBody 0 (Text.quoteChar c ++ rest) = prepend (t.units c) (t.readBody 0 rest) := by
  have hsmall : c.toNat < 0x10000 → t.units c = [c.toNat] := by
    intro h
    cases t with
    | python => rfl
    | typescript => rw [units, unitsOf, if_pos h]
  by_cases hc : c ∈ ['"', '\\', '\n', '\r', '\t', '\x08', '\x0c']
  · simp only [List.mem_cons, List.not_mem_nil, or_false] at hc
    rcases hc with rfl | rfl | rfl | rfl | rfl | rfl | rfl <;>
      exact (t.readBody_letter (by decide) rest).trans
        (congrArg (prepend · _) (hsmall (by decide)).symm)
  · simp only [List.mem_cons, List.not_mem_nil, or_false, not_or] at hc
    have hnone : Text.shortEscape? c = none := by simp [Text.shortEscape?, hc]
    rw [Text.quoteChar, hnone]
    dsimp only
    split
    next hlt => rw [t.readBody_unit hlt, hsmall (by omega)]
    next hge =>
      have hallowed : c ∉ t.forbidden := by
        intro hmem
        have hcontrol : t.forbidden.all fun d => d.toNat < 32 := by cases t <;> decide
        exact hge (by simpa using List.all_eq_true.1 hcontrol c hmem)
      rw [List.singleton_append, readBody, if_neg hc.1, if_neg hc.2.1, if_neg hallowed]

theorem readBody_quoteChars (cs rest : List Char) :
    t.readBody 0 (cs.flatMap Text.quoteChar ++ '"' :: rest) = some (cs.flatMap t.units, rest) := by
  induction cs with
  | nil => rfl
  | cons c cs ih =>
    rw [List.flatMap_cons, List.append_assoc, readBody_quoteChar, ih]
    rfl

end Reading

/-! ### Literals of texts -/

/-- Characters in which quotes and backslashes stand in pairs alone, of a backslash and the character that
it escapes. -/
inductive Escaped : List Char → Prop
  | nil : Escaped []
  | self {c : Char} {cs : List Char} (hq : c ≠ '"') (hb : c ≠ '\\') (h : Escaped cs) :
      Escaped (c :: cs)
  | pair (c : Char) {cs : List Char} (h : Escaped cs) : Escaped ('\\' :: c :: cs)

theorem Escaped.append {cs ds : List Char} (hc : Escaped cs) (hd : Escaped ds) : Escaped (cs ++ ds) := by
  induction hc with
  | nil => exact hd
  | self hq hb _ ih => exact .self hq hb ih
  | pair c _ ih => exact .pair c ih

theorem Escaped.head?_ne {cs : List Char} (h : Escaped cs) : cs.head? ≠ some '"' := by
  cases h with
  | nil => decide
  | self hq _ _ => simpa using hq
  | pair c _ => simp

theorem escaped_of_forall {cs : List Char} (h : ∀ c ∈ cs, c ≠ '"' ∧ c ≠ '\\') : Escaped cs := by
  induction cs with
  | nil => exact .nil
  | cons c cs ih =>
    obtain ⟨hc, hcs⟩ := List.forall_mem_cons.1 h
    exact .self hc.1 hc.2 (ih hcs)

/-- The digits of a number are no control characters, no quotes and no backslashes. -/
theorem mem_hex {k n : Nat} {c : Char} (h : c ∈ Text.hex k n) : 32 ≤ c.toNat ∧ c ≠ '"' ∧ c ≠ '\\' := by
  have hall : ∀ d < 16, 32 ≤ (Text.hexDigit d).toNat ∧ Text.hexDigit d ≠ '"' ∧
      Text.hexDigit d ≠ '\\' := by
    decide
  obtain ⟨i, -, rfl⟩ := List.mem_map.1 h
  exact hall _ (Nat.mod_lt _ (by decide))

theorem escaped_quoteChar (c : Char) :
    Escaped (Text.quoteChar c) ∧ ∀ d ∈ Text.quoteChar c, 32 ≤ d.toNat := by
  rw [Text.quoteChar]
  cases h : Text.shortEscape? c with
  | some s =>
    dsimp only
    unfold Text.shortEscape? at h
    split_ifs at h <;> cases h <;> exact ⟨.pair _ .nil, by simp⟩
  | none =>
    obtain ⟨hq, hb⟩ := Json.ne_of_shortEscape?_eq_none h
    dsimp only
    split
    next =>
      refine ⟨.pair _ (escaped_of_forall fun d hd => (mem_hex hd).2), ?_⟩
      rw [Text.unitEscape, List.forall_mem_cons, List.forall_mem_cons]
      exact ⟨by decide, by decide, fun d hd => (mem_hex hd).1⟩
    next hge => exact ⟨.self hq hb .nil, List.forall_mem_singleton.2 (by omega)⟩

theorem escaped_quoteChars (cs : List Char) :
    Escaped (cs.flatMap Text.quoteChar) ∧ ∀ d ∈ cs.flatMap Text.quoteChar, 32 ≤ d.toNat := by
  induction cs with
  | nil => exact ⟨.nil, nofun⟩
  | cons c cs ih =>
    obtain ⟨hc, hd⟩ := escaped_quoteChar c
    rw [List.flatMap_cons, List.forall_mem_append]
    exact ⟨hc.append ih.1, hd, ih.2⟩

/-- A text that stands for `v` as a literal of a language, whatever follows it but another quote. -/
structure Denotes (t : Target) (text v : String) : Prop where
  /-- There is no control character in the text, and so it stays on its line. -/
  no_control : ∀ c ∈ text.toList, 32 ≤ c.toNat
  exists_body : ∃ body, text.toList = '"' :: (body ++ ['"']) ∧ Escaped body
  reads : ∀ rest, rest.head? ≠ some '"' →
    t.readLiteral (text.toList ++ rest) = some (t.denotation v, rest)

/-- The literal of a text denotes it in both languages. -/
theorem denotes_literal (t : Target) (v : String) : t.Denotes (literal v) v := by
  have htext : (literal v).toList = '"' :: (v.toList.flatMap Text.quoteChar ++ ['"']) := by
    rw [literal, Text.quote, String.toList_ofList, List.cons_append]
  obtain ⟨hescaped, hcontrol⟩ := escaped_quoteChars v.toList
  refine ⟨?_, ⟨_, htext, hescaped⟩, fun rest hrest => ?_⟩
  · rw [htext, List.forall_mem_cons, List.forall_mem_append, List.forall_mem_singleton]
    exact ⟨by decide, hcontrol, by decide⟩
  · -- three quotes would come of an empty text alone, with a third quote behind it
    have hopen : ¬['"', '"'].isPrefixOf (v.toList.flatMap Text.quoteChar ++ '"' :: rest) := by
      have hhead := hescaped.head?_ne
      rw [List.isPrefixOf_iff_prefix]
      rintro ⟨tail, htail⟩
      cases hbody : v.toList.flatMap Text.quoteChar with
      | nil =>
        rw [hbody] at htail
        obtain ⟨-, hrest'⟩ := List.cons.inj htail
        exact hrest (by rw [← hrest']; rfl)
      | cons d body =>
        rw [hbody] at htail hhead
        obtain ⟨hd, -⟩ := List.cons.inj htail
        exact hhead (congrArg some hd.symm)
    rw [htext, List.cons_append, List.append_assoc, List.singleton_append, readLiteral,
      if_neg fun h => hopen h.2, readBody_quoteChars]
    rfl

end Target

end SchemaDecl
