import SchemaDecl.Proofs.Text.Cutting
import SchemaDecl.Proofs.TypeScript.Comments

/-! Types read from TypeScript with little asked of their names: a word is the name of a type unless it
is one of the words that texts of types are made of. Alternatives are read operand by operand, with the
brackets of arrays behind them, and object types line by line, past their comments. Where the text of a
type is read in this way it gives back the type, with identifiers for names and in normal form. -/

namespace SchemaDecl.TypeScript

open TypeExpr (unionOf Over Filled)
open Identifier (ofName)
open Text (identifierContinue)

/-! ### The reader -/

/-- The words that are types. -/
def typeWords : List String :=
  ["number", "string", "boolean", "object"]

/-- The type that a word is. -/
def wordType (w : String) : TypeExpr :=
  if w = "number" then .primitive .number
  else if w = "string" then .primitive .string
  else if w = "boolean" then .primitive .boolean
  else if w = "object" then .record []
  else .reference w none

/-- The text behind a beginning. -/
def behindStart? (start cs : List Char) : Option (List Char) :=
  if start.isPrefixOf cs then some (cs.drop start.length) else none

/-- The operand with the brackets of arrays that stand behind it. -/
def arrays : TypeExpr → List Char → TypeExpr × List Char
  | t, '[' :: ']' :: rest => arrays (.sequence t) rest
  | t, rest => (t, rest)

/-- The last line of a comment. -/
def commentEnd (indent : Nat) : List Char :=
  '\n' :: (tabs indent ++ " */").toList

/-- The word that a text begins with, and what follows. -/
def readWord : List Char → Option (String × List Char)
  | [] => none
  | c :: cs =>
    some (String.ofList (c :: cs.takeWhile identifierContinue.contains),
      cs.dropWhile identifierContinue.contains)

/-- A word or a name between quotes. -/
def readName (cs : List Char) : Option (String × List Char) :=
  match cs with
  | '"' :: _ => Text.quoted? cs
  | _ => readWord cs

/-- A name with the member that a dot and a word behind it stand for, or a word alone. -/
def readReference (cs : List Char) : Option (TypeExpr × List Char) :=
  (readWord cs).bind fun p =>
    match p.2 with
    | '.' :: rest => (readWord rest).map fun q => (.reference p.1 (some q.1), q.2)
    | rest => some (wordType p.1, rest)

/-- What stands between the name of a field and its type. -/
def readSign : List Char → Option (Bool × List Char)
  | '?' :: ':' :: ' ' :: rest => some (false, rest)
  | ':' :: ' ' :: rest => some (true, rest)
  | _ => none

/-- The alternatives that an operand begins, with those that follow it behind bars. -/
def readBehind (read : List Char → Option (List TypeExpr × List Char)) (t : TypeExpr)
    (cs : List Char) : Option (List TypeExpr × List Char) :=
  match arrays t cs with
  | (t, ' ' :: '|' :: ' ' :: rest) => (read rest).map fun p => (t :: p.1, p.2)
  | (t, rest) => some ([t], rest)

mutual

/-- The alternatives of the type that a text begins with, and what follows; the first number is at least
that of the types in it, and the second one is the depth of indentation. -/
def readType : Nat → Nat → List Char → Option (List TypeExpr × List Char)
  | 0, _, _ => none
  | k + 1, i, cs => (readOperand k i cs).bind fun p => readBehind (readType k i) p.1 p.2

def readOperand : Nat → Nat → List Char → Option (TypeExpr × List Char)
  | 0, _, _ => none
  | k + 1, i, cs =>
    match cs with
    | '(' :: rest =>
      (readType k i rest).bind fun p => (behindStart? [')'] p.2).map fun rest => (unionOf p.1, rest)
    | '\x7b' :: '\n' :: rest =>
      (readFields k (i + 1) rest).bind fun p =>
        (behindStart? (tabs i ++ "\x7d").toList p.2).map fun rest => (.record p.1, rest)
    | '"' :: _ => (Text.quoted? cs).map fun p => (.literals [p.1], p.2)
    | _ => readReference cs

/-- Fields, each on a line of its own, and comments. -/
def readFields : Nat → Nat → List Char → Option (List Field × List Char)
  | 0, _, _ => none
  | k + 1, i, cs =>
    match behindStart? (tabs i ++ "/**").toList cs with
    | some rest =>
      ((Text.behind? (commentEnd i) rest).bind (behindStart? ['\n'])).bind (readFields k i)
    | none =>
      match behindStart? (tabs i ++ "readonly ").toList cs with
      | some rest =>
        (readName rest).bind fun name => (readSign name.2).bind fun sign =>
          (readType k i sign.2).bind fun t => (behindStart? ['\n'] t.2).bind fun rest =>
            (readFields k i rest).map fun fs => (.mk name.1 (unionOf t.1) sign.1 {} :: fs.1, fs.2)
      | none => some ([], cs)

end

example : (readType 9 0 "any | (A | \"b\")[] | \x7b\n\treadonly c?: string\n\x7d".toList).map Prod.fst =
    some [.reference "any" none, .sequence (.union [.reference "A" none, .literals ["b"]]),
      .record [.mk "c" (.primitive .string) false {}]] := by
  decide +kernel

/-! ### Beginnings -/

@[simp] theorem behindStart?_append (start rest : List Char) :
    behindStart? start (start ++ rest) = some rest := by
  rw [behindStart?, if_pos (List.isPrefixOf_iff_prefix.2 (List.prefix_append _ _)), List.drop_left]

/-- Texts that differ behind what they have in common do not begin with each other. -/
theorem behindStart?_eq_none {common : List Char} {c d : Char} (h : c ≠ d) (start rest : List Char) :
    behindStart? (common ++ c :: start) (common ++ d :: rest) = none := by
  rw [behindStart?, if_neg]
  rw [List.isPrefixOf_iff_prefix, List.prefix_append_right_inj, List.cons_prefix_cons]
  exact fun hp => h hp.1

/-! ### Operands and alternatives -/

/-- The word before ends here: no more of it follows, and no member of it. -/
def Stops (rest : List Char) : Prop :=
  ∀ c ∈ rest.head?, c = ' ' ∨ c = '[' ∨ c = ')' ∨ c = '\n'

/-- The type before ends here. -/
def Ends (rest : List Char) : Prop :=
  ∀ c ∈ rest.head?, c = ')' ∨ c = '\n'

theorem Ends.stops {rest : List Char} (h : Ends rest) : Stops rest :=
  fun c hc => Or.inr (Or.inr (h c hc))

theorem readBehind_ends {rest : List Char} (h : Ends rest)
    (read : List Char → Option (List TypeExpr × List Char)) (t : TypeExpr) :
    readBehind read t rest = some ([t], rest) := by
  cases rest with
  | nil => rfl
  | cons c rest => rcases h c rfl with rfl | rfl <;> rfl

/-- The text is read as one operand wherever it ends. -/
def SpellsOperand (indent : Nat) (text : String) (t : TypeExpr) : Prop :=
  ∃ k, ∀ n rest, Stops rest → readOperand (n + k) indent (text.toList ++ rest) = some (t, rest)

/-- The text is read as these alternatives, and what comes behind it belongs to the last of them. -/
def Spells (indent : Nat) (text : String) (alts : List TypeExpr) : Prop :=
  ∃ front last k j, alts = front ++ [last] ∧ ∀ n rest, Stops rest →
    readType (n + k) indent (text.toList ++ rest) =
      (readBehind (readType (n + j) indent) last rest).map fun p => (front ++ p.1, p.2)

section Spells

variable {indent : Nat} {text : String} {alts : List TypeExpr}

theorem Spells.exists_readType (h : Spells indent text alts) :
    ∃ k, ∀ n rest, Ends rest → readType (n + k) indent (text.toList ++ rest) = some (alts, rest) := by
  obtain ⟨front, last, k, j, rfl, hk⟩ := h
  refine ⟨k, fun n rest hrest => ?_⟩
  rw [hk n rest hrest.stops, readBehind_ends hrest]
  rfl

theorem Spells.unique {alts' : List TypeExpr} (h : Spells indent text alts)
    (h' : Spells indent text alts') : alts = alts' := by
  obtain ⟨k, hk⟩ := h.exists_readType
  obtain ⟨k', hk'⟩ := h'.exists_readType
  have hread := hk k' [] nofun
  rw [Nat.add_comm, hk' k [] nofun] at hread
  exact (Prod.mk.inj (Option.some.inj hread)).1.symm

theorem SpellsOperand.spells {t : TypeExpr} (h : SpellsOperand indent text t) :
    Spells indent text [t] := by
  obtain ⟨k, hk⟩ := h
  refine ⟨[], t, k + 1, k, rfl, fun n rest hrest => ?_⟩
  rw [← Nat.add_assoc, readType, hk n rest hrest, Option.bind_some]
  simp

theorem Spells.bar {text' : String} {alts' : List TypeExpr} (h : Spells indent text alts)
    (h' : Spells indent text' alts') : Spells indent (text ++ " | " ++ text') (alts ++ alts') := by
  obtain ⟨front, last, k, j, rfl, hk⟩ := h
  obtain ⟨front', last', k', j', rfl, hk'⟩ := h'
  refine ⟨front ++ last :: front', last', k + k', j + j', by simp, fun n rest hrest => ?_⟩
  have hbar : Stops (" | ".toList ++ (text'.toList ++ rest)) := by
    rintro c ⟨⟩
    exact Or.inl rfl
  have hbehind : readBehind (readType (n + k' + j) indent) last
      (" | ".toList ++ (text'.toList ++ rest)) =
        (readType (n + k' + j) indent (text'.toList ++ rest)).map fun p => (last :: p.1, p.2) := rfl
  rw [String.toList_append, String.toList_append, List.append_assoc, List.append_assoc,
    show n + (k + k') = n + k' + k by omega, hk _ _ hbar, hbehind,
    show n + k' + j = n + j + k' by omega, hk' _ _ hrest, ← Nat.add_assoc]
  simp [Option.map_map, Function.comp_def]

/-- The brackets of an array belong to the last alternative alone. -/
theorem Spells.array {front : List TypeExpr} {t : TypeExpr} (h : Spells indent text (front ++ [t])) :
    Spells indent (text ++ "[]") (front ++ [.sequence t]) := by
  obtain ⟨front', last, k, j, halts, hk⟩ := h
  obtain ⟨rfl, hlast⟩ := List.append_inj' halts rfl
  cases hlast
  refine ⟨front, .sequence t, k, j, rfl, fun n rest _ => ?_⟩
  have hbracket : Stops ('[' :: ']' :: rest) := by
    rintro c ⟨⟩
    exact Or.inr (Or.inl rfl)
  have hread := hk n _ hbracket
  have hbehind : readBehind (readType (n + j) indent) t ('[' :: ']' :: rest) =
      readBehind (readType (n + j) indent) (.sequence t) rest := rfl
  rw [hbehind] at hread
  simpa using hread

theorem Spells.group (h : Spells indent text alts) :
    SpellsOperand indent ("(" ++ text ++ ")") (unionOf alts) := by
  obtain ⟨k, hk⟩ := h.exists_readType
  refine ⟨k + 1, fun n rest _ => ?_⟩
  have hclose : Ends (')' :: rest) := by
    rintro c ⟨⟩
    exact Or.inl rfl
  have htext : ("(" ++ text ++ ")").toList ++ rest = '(' :: (text.toList ++ ')' :: rest) := by
    simp
  have hstart : behindStart? [')'] (')' :: rest) = some rest := behindStart?_append [')'] rest
  rw [htext, ← Nat.add_assoc, readOperand, hk n _ hclose, Option.bind_some, hstart, Option.map_some]

/-- Alternatives between bars. -/
theorem spells_bars {texts : List String} {f : String → List TypeExpr} (hne : texts ≠ [])
    (h : ∀ text ∈ texts, Spells indent text (f text)) :
    Spells indent (barSeparated texts) (texts.flatMap f) := by
  induction texts with
  | nil => exact absurd rfl hne
  | cons text texts ih =>
    obtain ⟨htext, htexts⟩ := List.forall_mem_cons.1 h
    cases texts with
    | nil => simpa [barSeparated] using htext
    | cons next texts =>
      rw [barSeparated, String.intercalate_cons_cons, List.flatMap_cons]
      exact htext.bar (ih (List.cons_ne_nil _ _) htexts)

end Spells

/-! ### Words -/

/-- No word goes on with these. -/
theorem not_continue {c : Char} (h : c ∈ [' ', '[', ')', '\n', '.', '?', ':']) :
    identifierContinue.contains c = false := by
  have hall : [' ', '[', ')', '\n', '.', '?', ':'].all separators.contains = true := by decide
  exact (not_contains_of_mem_separators (by simpa using List.all_eq_true.1 hall c h)).2

theorem not_continue_of_stops {rest : List Char} (h : Stops rest) :
    ∀ c ∈ rest.head?, identifierContinue.contains c = false := by
  intro c hc
  refine not_continue ?_
  rcases h c hc with rfl | rfl | rfl | rfl <;> decide

theorem readWord_identifier {s : String} (h : Text.isIdentifier s) {rest : List Char}
    (hr : ∀ c ∈ rest.head?, identifierContinue.contains c = false) :
    readWord (s.toList ++ rest) = some (s, rest) := by
  unfold Text.isIdentifier at h
  cases hs : s.toList with
  | nil =>
    rw [hs] at h
    cases h
  | cons c cs =>
    rw [hs, Text.isIdentifierList, Bool.and_eq_true, List.all_eq_true] at h
    rw [List.cons_append, readWord, Text.takeWhile_word h.2 hr, Text.dropWhile_word h.2 hr, ← hs,
      String.ofList_toList]

theorem exists_cons_of_isIdentifier {s : String} (h : Text.isIdentifier s) :
    ∃ c cs, s.toList = c :: cs ∧ ∀ d ∈ separators, c ≠ d := by
  unfold Text.isIdentifier at h
  cases hs : s.toList with
  | nil =>
    rw [hs] at h
    cases h
  | cons c cs =>
    rw [hs, Text.isIdentifierList, Bool.and_eq_true] at h
    refine ⟨c, cs, rfl, ?_⟩
    rintro d hd rfl
    rw [(not_contains_of_mem_separators hd).1] at h
    cases h.1

theorem readName_fieldName (name : String) {rest : List Char}
    (hr : ∀ c ∈ rest.head?, identifierContinue.contains c = false) :
    readName ((fieldName name).toList ++ rest) = some (name, rest) := by
  unfold fieldName
  split
  next h =>
    obtain ⟨c, cs, hs, hc⟩ := exists_cons_of_isIdentifier h
    have hword := readWord_identifier h hr
    rw [hs] at hword ⊢
    rw [← hword, List.cons_append, readName]
    rintro cs' ⟨⟩
    exact hc '"' (by decide) rfl
  next =>
    rw [← Text.quoted?_literal name rest, Text.literal_append]
    rfl

theorem readOperand_identifier {s : String} (h : Text.isIdentifier s) (n indent : Nat)
    (rest : List Char) :
    readOperand (n + 1) indent (s.toList ++ rest) = readReference (s.toList ++ rest) := by
  obtain ⟨c, cs, hs, hc⟩ := exists_cons_of_isIdentifier h
  rw [hs, List.cons_append, readOperand]
  · rintro cs' ⟨⟩
    exact hc '(' (by decide) rfl
  · intro cs' he
    exact hc '\x7b' (by decide) (List.cons.inj he).1
  · rintro cs' ⟨⟩
    exact hc '"' (by decide) rfl

theorem spellsOperand_word (indent : Nat) {word : String} (h : Text.isIdentifier word) :
    SpellsOperand indent word (wordType word) := by
  refine ⟨1, fun n rest hrest => ?_⟩
  have hstop := not_continue_of_stops hrest
  rw [readOperand_identifier h, readReference, readWord_identifier h hstop, Option.bind_some]
  split
  next r he =>
    obtain rfl : rest = '.' :: r := he
    rcases hrest '.' rfl with h | h | h | h <;> cases h
  next => rfl

theorem spellsOperand_member (indent : Nat) {name member : String} (hn : Text.isIdentifier name)
    (hm : Text.isIdentifier member) :
    SpellsOperand indent (name ++ "." ++ member) (.reference name (some member)) := by
  refine ⟨1, fun n rest hrest => ?_⟩
  have hstop := not_continue_of_stops hrest
  have hdot : ∀ c ∈ ('.' :: (member.toList ++ rest)).head?, identifierContinue.contains c = false := by
    rintro c ⟨⟩
    exact not_continue (by decide)
  have htext : (name ++ "." ++ member).toList ++ rest = name.toList ++ '.' :: (member.toList ++ rest) := by
    simp
  rw [htext, readOperand_identifier hn, readReference, readWord_identifier hn hdot, Option.bind_some]
  have hread := readWord_identifier hm hstop
  simp [hread]

theorem spellsOperand_literal (indent : Nat) (v : String) :
    SpellsOperand indent (literal v) (.literals [v]) := by
  refine ⟨1, fun n rest _ => ?_⟩
  have hread := Text.quoted?_literal v rest
  rw [Text.literal_append] at hread ⊢
  rw [readOperand, hread, Option.map_some]

/-! ### Object types -/

/-- A line in a comment neither is the last one nor has it in it, if its text has not. -/
theorem not_commentEnd_line {indent : Nat} (text : List Char) (hhead : text.head? ≠ some '/')
    (h : ¬commentEnd indent <:+: text) {line : List Char}
    (hline : line = (tabs indent ++ " *").toList ++ text) :
    ¬((tabs indent ++ " */").toList <+: line ∨ commentEnd indent <:+: line) := by
  subst hline
  rintro (hp | hi)
  · have hmark : (tabs indent ++ " */").toList = (tabs indent ++ " *").toList ++ ['/'] := by simp
    rw [hmark, List.prefix_append_right_inj] at hp
    obtain ⟨rest, rfl⟩ := hp
    exact hhead rfl
  · exact h (Text.infix_of_notMem (by simp [tabs, List.mem_replicate]) hi)

/-- The last line of a comment comes first at its end, unless a line of documentation holds one. -/
theorem not_infix_comment {indent : Nat} {doc : List String}
    (h : ∀ line ∈ doc, ¬commentEnd indent <:+: line.toList) :
    ¬commentEnd indent <:+: (doc.flatMap fun line => '\n' :: (tabs indent ++ starred line).toList) ++
      (commentEnd indent).dropLast := by
  have hparts : (doc.flatMap fun line => '\n' :: (tabs indent ++ starred line).toList) ++
      (commentEnd indent).dropLast =
        ((doc.map fun line => (tabs indent ++ starred line).toList) ++
          [(tabs indent ++ " *").toList]).flatMap ('\n' :: ·) := by
    have hmark : commentEnd indent = '\n' :: (tabs indent ++ " *").toList ++ ['/'] := by
      simp [commentEnd]
    have hlast : (commentEnd indent).dropLast = '\n' :: (tabs indent ++ " *").toList := by
      rw [hmark, List.dropLast_concat]
    rw [List.flatMap_append, List.flatMap_map, hlast]
    simp
  rw [hparts]
  intro hinfix
  obtain ⟨part, hpart, hmark⟩ := Text.infix_flatMap_cons (by simp [tabs, List.mem_replicate]) hinfix
  rcases List.mem_append.1 hpart with hpart | hpart
  · obtain ⟨line, hline, rfl⟩ := List.mem_map.1 hpart
    by_cases he : line.isEmpty
    · refine not_commentEnd_line [] (by simp) ?_ ?_ hmark
      · simp [commentEnd]
      · simp [starred, he]
    · refine not_commentEnd_line (' ' :: line.toList) (by simp) (fun hi => h line hline ?_) ?_ hmark
      · have hblank : commentEnd indent <:+: [' '] ++ line.toList := hi
        exact Text.infix_of_notMem (by decide) hblank
      · simp [starred, he]
  · refine not_commentEnd_line [] (by simp) ?_ ?_ hmark
    · simp [commentEnd]
    · simpa using hpart

/-- The end of a line before some lines instead of behind them. -/
theorem toList_unlines (ls : List String) (rest : List Char) :
    '\n' :: ((Emitter.unlines ls).toList ++ rest) =
      (ls.flatMap fun l => '\n' :: l.toList) ++ '\n' :: rest := by
  induction ls with
  | nil => simp [Emitter.unlines]
  | cons l ls ih =>
    rw [Emitter.unlines_cons, List.flatMap_cons, List.append_assoc, ← ih]
    simp

theorem exists_behind?_comment {indent : Nat} {doc : List String} (hne : doc ≠ [])
    (h : ∀ line ∈ doc, ¬commentEnd indent <:+: line.toList) (rest : List Char) :
    ∃ cs, (Emitter.unlines (commentLines (tabs indent) doc)).toList ++ rest =
        (tabs indent ++ "/**").toList ++ cs ∧
      Text.behind? (commentEnd indent) cs = some ('\n' :: rest) := by
  refine ⟨_, ?_, Text.behind?_append (not_infix_comment h) ('\n' :: rest)⟩
  have hbody : (Emitter.unlines (commentLines (tabs indent) doc)).toList ++ rest =
      (tabs indent ++ "/**").toList ++
        '\n' :: ((Emitter.unlines (doc.map fun line => tabs indent ++ starred line)).toList ++
          ((tabs indent ++ " */").toList ++ '\n' :: rest)) := by
    rw [commentLines, if_neg (by simpa using hne), List.cons_append, Emitter.unlines_cons,
      Emitter.unlines_append]
    simp [Emitter.unlines]
  rw [hbody, toList_unlines, List.flatMap_map, commentEnd]
  rfl

/-- A field as its text gives it back. -/
def FieldSpells (indent : Nat) (f f' : Field) : Prop :=
  ∃ alts, Spells indent (typeText indent f.type) alts ∧ f' = .mk f.name (unionOf alts) f.required {}

section Fields

variable {indent : Nat}

theorem readFields_comment {doc : List String} (hne : doc ≠ [])
    (h : ∀ line ∈ doc, ¬commentEnd indent <:+: line.toList) (n : Nat) (rest : List Char) :
    readFields (n + 1) indent ((Emitter.unlines (commentLines (tabs indent) doc)).toList ++ rest) =
      readFields n indent rest := by
  obtain ⟨cs, htext, hbehind⟩ := exists_behind?_comment hne h rest
  have hline : behindStart? ['\n'] ('\n' :: rest) = some rest := behindStart?_append ['\n'] rest
  rw [htext, readFields, behindStart?_append]
  simp only [hbehind, Option.bind_some, hline]

theorem readSign_sign (required : Bool) (rest : List Char) :
    readSign ((if required then "" else "?").toList ++ (": ".toList ++ rest)) = some (required, rest) := by
  cases required <;> rfl

theorem readFields_line {f : Field} {alts : List TypeExpr} {k : Nat}
    (h : ∀ n rest, Ends rest → readType (n + k) indent ((typeText indent f.type).toList ++ rest) =
      some (alts, rest)) (n : Nat) (rest : List Char) :
    readFields (n + k + 1) indent
      ((fieldHead indent f ++ typeText indent f.type ++ "\n").toList ++ rest) =
        (readFields (n + k) indent rest).map fun fs =>
          (.mk f.name (unionOf alts) f.required {} :: fs.1, fs.2) := by
  have hend : Ends ('\n' :: rest) := by
    rintro c ⟨⟩
    exact Or.inr rfl
  have htext : (fieldHead indent f ++ typeText indent f.type ++ "\n").toList ++ rest =
      (tabs indent ++ "readonly ").toList ++ ((fieldName f.name).toList ++
        ((if f.required then "" else "?").toList ++
          (": ".toList ++ ((typeText indent f.type).toList ++ '\n' :: rest)))) := by
    simp [fieldHead]
  have hcomment : ∀ cs, behindStart? (tabs indent ++ "/**").toList
      ((tabs indent ++ "readonly ").toList ++ cs) = none := by
    intro cs
    rw [String.toList_append, String.toList_append, List.append_assoc]
    exact behindStart?_eq_none (by decide) _ _
  have hsign : ∀ cs, ∀ c ∈ ((if f.required then "" else "?").toList ++ (": ".toList ++ cs)).head?,
      identifierContinue.contains c = false := by
    intro cs c hc
    refine not_continue ?_
    cases hr : f.required <;> rw [hr] at hc <;> cases hc <;> decide
  have hline : behindStart? ['\n'] ('\n' :: rest) = some rest := behindStart?_append ['\n'] rest
  rw [htext, readFields, hcomment]
  simp only [behindStart?_append, readName_fieldName f.name (hsign _), readSign_sign, h n _ hend, hline,
    Option.bind_some]

theorem exists_readFields_field {f f' : Field} (h : FieldSpells indent f f')
    (hd : ∀ line ∈ fieldDoc f.doc, ¬commentEnd indent <:+: line.toList) :
    ∃ k j, ∀ n rest, readFields (n + k) indent
      ((Emitter.unlines (commentLines (tabs indent) (fieldDoc f.doc)) ++
        (fieldHead indent f ++ typeText indent f.type ++ "\n")).toList ++ rest) =
          (readFields (n + j) indent rest).map fun fs => (f' :: fs.1, fs.2) := by
  obtain ⟨alts, hspells, rfl⟩ := h
  obtain ⟨k, hk⟩ := hspells.exists_readType
  by_cases hne : fieldDoc f.doc = []
  · refine ⟨k + 1, k, fun n rest => ?_⟩
    rw [← readFields_line hk n rest, hne]
    simp [commentLines, Emitter.unlines, ← Nat.add_assoc]
  · refine ⟨k + 2, k, fun n rest => ?_⟩
    rw [← readFields_line hk n rest, String.toList_append, List.append_assoc, ← Nat.add_assoc,
      readFields_comment hne hd]

theorem exists_readFields {fs fs' : List Field} (h : List.Forall₂ (FieldSpells (indent + 1)) fs fs')
    (hd : ∀ f ∈ fs, ∀ line ∈ fieldDoc f.doc, ¬commentEnd (indent + 1) <:+: line.toList) :
    ∃ k, ∀ n rest, readFields (n + k) (indent + 1)
      ((String.join (fs.map fun f =>
        Emitter.unlines (commentLines (tabs (indent + 1)) (fieldDoc f.doc)) ++
          (fieldHead (indent + 1) f ++ typeText (indent + 1) f.type ++ "\n"))).toList ++
        ((tabs indent ++ "\x7d").toList ++ rest)) =
          some (fs', (tabs indent ++ "\x7d").toList ++ rest) := by
  induction h with
  | nil =>
    refine ⟨1, fun n rest => ?_⟩
    -- the closing brace stands where a line of a field has one more tab
    have hnone : ∀ start : String, behindStart? (tabs (indent + 1) ++ start).toList
        ((tabs indent ++ "\x7d").toList ++ rest) = none := by
      intro start
      have htabs : (tabs (indent + 1) ++ start).toList = (tabs indent).toList ++ '\t' :: start.toList := by
        simp [tabs, List.replicate_succ']
      rw [htabs, String.toList_append, List.append_assoc]
      exact behindStart?_eq_none (by decide) _ _
    have hempty : String.join (([] : List Field).map fun f =>
        Emitter.unlines (commentLines (tabs (indent + 1)) (fieldDoc f.doc)) ++
          (fieldHead (indent + 1) f ++ typeText (indent + 1) f.type ++ "\n")) = "" := rfl
    rw [hempty, String.toList_empty, List.nil_append, readFields, hnone]
    dsimp only
    rw [hnone]
  | @cons f f' fs fs' hf _ ih =>
    obtain ⟨hdf, hdfs⟩ := List.forall_mem_cons.1 hd
    obtain ⟨k, hk⟩ := ih hdfs
    obtain ⟨k', j, hk'⟩ := exists_readFields_field hf hdf
    refine ⟨k + k', fun n rest => ?_⟩
    rw [List.map_cons, String.join_cons, String.toList_append, List.append_assoc, ← Nat.add_assoc, hk',
      show n + k + j = n + j + k by omega, hk, Option.map_some]

end Fields

theorem spellsOperand_record {indent : Nat} {fs fs' : List Field} (hne : fs ≠ [])
    (h : List.Forall₂ (FieldSpells (indent + 1)) fs fs')
    (hd : ∀ f ∈ fs, ∀ line ∈ fieldDoc f.doc, ¬commentEnd (indent + 1) <:+: line.toList) :
    SpellsOperand indent (typeText indent (.record fs)) (.record fs') := by
  obtain ⟨f, fs, rfl⟩ := List.exists_cons_of_ne_nil hne
  obtain ⟨k, hk⟩ := exists_readFields h hd
  refine ⟨k + 1, fun n rest _ => ?_⟩
  have htext : (typeText indent (.record (f :: fs))).toList ++ rest =
      '\x7b' :: '\n' :: ((String.join ((f :: fs).map fun f =>
        Emitter.unlines (commentLines (tabs (indent + 1)) (fieldDoc f.doc)) ++
          (fieldHead (indent + 1) f ++ typeText (indent + 1) f.type ++ "\n"))).toList ++
        ((tabs indent ++ "\x7d").toList ++ rest)) := by
    rw [typeText_record]
    simp
  rw [htext, ← Nat.add_assoc, readOperand, hk, Option.bind_some, behindStart?_append, Option.map_some]

end SchemaDecl.TypeScript
