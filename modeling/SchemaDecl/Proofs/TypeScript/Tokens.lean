import SchemaDecl.Proofs.Identifier.Words
import SchemaDecl.Synthesis
import SchemaDecl.Target.TypeScript

/-! The tokens of a text in TypeScript, as far as types are written with them: words, strings between
double quotes, marks, and the ends of lines. Blanks and comments stand between tokens and are none. The
text is read by a machine with one step for each character, so what a text is cut into follows from
its parts, as long as no word runs on from one part into the next. -/

namespace SchemaDecl.TypeScript

open Identifier (contains_ascii)
open Text (identifierStart identifierContinue)

/-! ### The machine -/

inductive Token where
  | word (s : String)
  | text (s : String)
  | mark (c : Char)
  | line
  deriving DecidableEq, Repr

/-- What the last characters were part of. -/
inductive Mode where
  | code
  | word (s : List Char)
  /-- A slash that a comment may begin with. -/
  | slash
  | comment
  /-- An asterisk that a comment may end with. -/
  | star
  | text (s : List Char)
  | escape (s : List Char)
  /-- The digits so far of an escape by four of them. -/
  | unit (s digits : List Char)
  deriving DecidableEq, Repr

def marks : List Char :=
  ['|', '(', ')', '[', ']', '\x7b', '\x7d', ':', '?', '.']

/-- The character that a backslash and a letter stand for. -/
def escaped? (c : Char) : Option Char :=
  [('"', '"'), ('\\', '\\'), ('/', '/'), ('n', '\n'), ('r', '\r'), ('t', '\t'), ('b', '\x08'),
    ('f', '\x0c')].lookup c

def hexValue? (c : Char) : Option Nat :=
  ("0123456789abcdef".toList.zipIdx).lookup c

/-- The character with a number of four digits; halves of pairs are not among them. -/
def unit? (digits : List Char) : Option Char := do
  let ds ← digits.mapM hexValue?
  let n := ds.foldl (fun n d => n * 16 + d) 0
  if n.isValidChar then some (Char.ofNat n) else none

/-- One character between tokens. -/
def feedCode (c : Char) : Option (List Token × Mode) :=
  if c == ' ' || c == '\t' then some ([], .code)
  else if c == '\n' then some ([.line], .code)
  else if c == '/' then some ([], .slash)
  else if c == '"' then some ([], .text [])
  else if marks.contains c then some ([.mark c], .code)
  else if identifierStart.contains c then some ([], .word [c])
  else none

/-- One character: the tokens that are complete now, and what comes next. -/
def feed (m : Mode) (c : Char) : Option (List Token × Mode) :=
  match m with
  | .code => feedCode c
  | .word s =>
    if identifierContinue.contains c then some ([], .word (s ++ [c]))
    else (feedCode c).map fun p => (.word (String.ofList s) :: p.1, p.2)
  | .slash => if c == '*' then some ([], .comment) else none
  | .comment => some ([], if c == '*' then .star else .comment)
  | .star => some ([], if c == '/' then .code else if c == '*' then .star else .comment)
  | .text s =>
    if c == '"' then some ([.text (String.ofList s)], .code)
    else if c == '\\' then some ([], .escape s)
    else if c.toNat < 32 then none
    else some ([], .text (s ++ [c]))
  | .escape s =>
    if c == 'u' then some ([], .unit s [])
    else (escaped? c).map fun d => ([], .text (s ++ [d]))
  | .unit s digits =>
    if digits.length < 3 then some ([], .unit s (digits ++ [c]))
    else (unit? (digits ++ [c])).map fun d => ([], .text (s ++ [d]))

/-- Some characters one after another. -/
def feedAll (m : Mode) : List Char → Option (List Token × Mode)
  | [] => some ([], m)
  | c :: cs => do
    let (ts, m) ← feed m c
    let (us, m) ← feedAll m cs
    return (ts ++ us, m)

/-- What is complete at the end of the text. -/
def Mode.close : Mode → Option (List Token)
  | .code => some []
  | .word s => some [.word (String.ofList s)]
  | _ => none

def tokens (cs : List Char) : Option (List Token) := do
  let (ts, m) ← feedAll .code cs
  return ts ++ (← m.close)

example : tokens "(A | \"b\\n\")[] /* c */".toList =
    some [.mark '(', .word "A", .mark '|', .text "b\n", .mark ')', .mark '[', .mark ']'] := by
  decide +kernel

/-! ### Parts of a text -/

theorem feedAll_cons {m : Mode} {c : Char} {cs : List Char} {p : List Token × Mode} :
    feedAll m (c :: cs) = some p ↔
      ∃ q r, feed m c = some q ∧ feedAll q.2 cs = some r ∧ p = (q.1 ++ r.1, r.2) := by
  rw [feedAll]
  simp only [Option.bind_eq_bind, Option.bind_eq_some_iff, Option.pure_def, Option.some.injEq]
  constructor
  · rintro ⟨q, hq, r, hr, rfl⟩
    exact ⟨q, r, hq, hr, rfl⟩
  · rintro ⟨q, r, hq, hr, rfl⟩
    exact ⟨q, hq, r, hr, rfl⟩

theorem feedAll_append {m m' m'' : Mode} {a b : List Char} {ts us : List Token}
    (ha : feedAll m a = some (ts, m')) (hb : feedAll m' b = some (us, m'')) :
    feedAll m (a ++ b) = some (ts ++ us, m'') := by
  induction a generalizing m ts with
  | nil =>
    cases ha
    exact hb
  | cons c a ih =>
    obtain ⟨q, r, hq, hr, hp⟩ := feedAll_cons.1 ha
    cases hp
    exact feedAll_cons.2 ⟨q, _, hq, ih hr, by rw [List.append_assoc]⟩

/-- No word goes on in the text. -/
def Breaks (cs : List Char) : Prop :=
  ∀ c ∈ cs.head?, identifierContinue.contains c = false

/-- A word ends where a text begins in which it does not go on. -/
theorem feedAll_word_of_breaks (s : List Char) {c : Char} {cs : List Char} (h : Breaks (c :: cs))
    {us : List Token} {m : Mode} (hcs : feedAll .code (c :: cs) = some (us, m)) :
    feedAll (.word s) (c :: cs) = some (.word (String.ofList s) :: us, m) := by
  obtain ⟨q, r, hq, hr, hp⟩ := feedAll_cons.1 hcs
  cases hp
  refine feedAll_cons.2 ⟨(.word (String.ofList s) :: q.1, q.2), r, ?_, hr, rfl⟩
  rw [feed, if_neg (by simpa using h c rfl)]
  exact congrArg (Option.map _) hq

theorem tokens_eq_some {cs : List Char} {ts : List Token} :
    tokens cs = some ts ↔
      ∃ us m rest, feedAll .code cs = some (us, m) ∧ m.close = some rest ∧ ts = us ++ rest := by
  rw [tokens]
  constructor
  · intro h
    obtain ⟨⟨us, m⟩, hf, h⟩ := Option.bind_eq_some_iff.1 h
    obtain ⟨rest, hr, h⟩ := Option.bind_eq_some_iff.1 h
    cases h
    exact ⟨us, m, rest, hf, hr, rfl⟩
  · rintro ⟨us, m, rest, hf, hr, rfl⟩
    rw [hf]
    simp [hr]

/-- The tokens of a text are those of its parts. -/
theorem tokens_append {a b : List Char} {ts us : List Token} (ha : tokens a = some ts)
    (hb : tokens b = some us) (h : Breaks b) : tokens (a ++ b) = some (ts ++ us) := by
  obtain ⟨ts', m, tail, hfa, hma, rfl⟩ := tokens_eq_some.1 ha
  obtain ⟨us', m', tail', hfb, hmb, rfl⟩ := tokens_eq_some.1 hb
  cases b with
  | nil =>
    cases hfb
    cases hmb
    rw [List.append_nil, List.append_nil, List.append_nil]
    exact ha
  | cons c b =>
    rw [tokens_eq_some]
    cases m with
    | code =>
      cases hma
      exact ⟨_, m', tail', feedAll_append hfa hfb, hmb, by simp⟩
    | word s =>
      cases hma
      exact ⟨_, m', tail', feedAll_append hfa (feedAll_word_of_breaks s h hfb), hmb, by simp⟩
    | _ => cases hma

theorem tokens_of_feedAll {cs : List Char} {ts : List Token} (h : feedAll .code cs = some (ts, .code)) :
    tokens cs = some ts :=
  tokens_eq_some.2 ⟨ts, .code, [], h, rfl, by simp⟩

/-- Behind a part in which all tokens are complete any text may follow. -/
theorem tokens_append_of_feedAll {a b : List Char} {ts us : List Token}
    (ha : feedAll .code a = some (ts, .code)) (hb : tokens b = some us) :
    tokens (a ++ b) = some (ts ++ us) := by
  obtain ⟨us', m, tail, hfb, hm, rfl⟩ := tokens_eq_some.1 hb
  exact tokens_eq_some.2 ⟨_, m, tail, feedAll_append ha hfb, hm, by simp⟩

theorem tokens_mark {c : Char} (hc : c ∈ marks) {cs : List Char} {us : List Token}
    (h : tokens cs = some us) : tokens (c :: cs) = some (.mark c :: us) := by
  have hall : (marks.all fun x => feedAll .code [x] == some ([.mark x], .code)) = true := by
    decide +kernel
  exact tokens_append_of_feedAll (beq_iff_eq.1 (List.all_eq_true.1 hall c hc)) h

/-! ### Words -/

theorem feedAll_word (s : List Char) {cs : List Char} (h : ∀ c ∈ cs, identifierContinue.contains c) :
    feedAll (.word s) cs = some ([], .word (s ++ cs)) := by
  induction cs generalizing s with
  | nil => rw [List.append_nil, feedAll]
  | cons c cs ih =>
    obtain ⟨hc, hcs⟩ := List.forall_mem_cons.1 h
    rw [feedAll, feed, if_pos hc]
    simp [ih _ hcs]

/-- The characters between words. -/
def separators : List Char :=
  ' ' :: '\t' :: '\n' :: '/' :: '"' :: marks

theorem not_contains_of_mem_separators {c : Char} (h : c ∈ separators) :
    identifierStart.contains c = false ∧ identifierContinue.contains c = false := by
  have hall : (separators.all fun x => x.toNat < 128 &&
      !Text.CharSet.contains ⟨[65, 91, 95, 96, 97, 123]⟩ x &&
      !Text.CharSet.contains ⟨[48, 58, 65, 91, 95, 96, 97, 123]⟩ x) = true := by
    decide +kernel
  have hc := List.all_eq_true.1 hall c h
  simp only [Bool.and_eq_true, decide_eq_true_eq, Bool.not_eq_true'] at hc
  obtain ⟨⟨hlt, hs⟩, ht⟩ := hc
  rw [(contains_ascii hlt).1, (contains_ascii hlt).2]
  exact ⟨hs, ht⟩

/-- What a word may begin with begins no other token. -/
theorem feedCode_of_start {c : Char} (h : identifierStart.contains c) :
    feedCode c = some ([], .word [c]) := by
  have hne : ∀ x ∈ separators, c ≠ x := by
    rintro x hx rfl
    rw [(not_contains_of_mem_separators hx).1] at h
    cases h
  simp only [separators, List.forall_mem_cons] at hne
  obtain ⟨hb, ht, hn, hs, hq, hm⟩ := hne
  have hmark : marks.contains c = false := by
    rw [Bool.eq_false_iff]
    exact fun hc => hm c (List.contains_iff_mem.1 hc) rfl
  rw [feedCode, if_neg (by simp [hb, ht]), if_neg (by simpa using hn), if_neg (by simpa using hs),
    if_neg (by simpa using hq), hmark, if_neg (by simp), if_pos h]

theorem feedAll_identifier {s : String} (h : Text.isIdentifier s = true) :
    feedAll .code s.toList = some ([], .word s.toList) := by
  unfold Text.isIdentifier at h
  cases hs : s.toList with
  | nil =>
    rw [hs] at h
    cases h
  | cons c cs =>
    rw [hs, Text.isIdentifierList, Bool.and_eq_true, List.all_eq_true] at h
    exact feedAll_cons.2 ⟨_, _, feedCode_of_start h.1, feedAll_word [c] h.2, rfl⟩

theorem tokens_identifier {s : String} (h : Text.isIdentifier s = true) :
    tokens s.toList = some [.word s] := by
  refine tokens_eq_some.2 ⟨[], _, _, feedAll_identifier h, rfl, ?_⟩
  rw [String.ofList_toList]
  rfl

/-! ### Strings -/

theorem feedAll_unitEscape (s : List Char) {c : Char} (h : c.toNat < 32) :
    feedAll (.text s) (Text.unitEscape c.toNat) = some ([], .text (s ++ [c])) := by
  have hall : ∀ n < 32, (Text.hex 4 n).length = 4 ∧ unit? (Text.hex 4 n) = some (Char.ofNat n) := by
    decide +kernel
  obtain ⟨hlen, hu⟩ := hall c.toNat h
  rw [Text.unitEscape]
  match hd : Text.hex 4 c.toNat, hlen with
  | [a, b, d, e], _ =>
    rw [hd, Char.ofNat_toNat] at hu
    simp [feedAll, feed, hu]

/-- A character between quotes is read as what it stands for. -/
theorem feedAll_quoteChar (s : List Char) (c : Char) :
    feedAll (.text s) (Text.quoteChar c) = some ([], .text (s ++ [c])) := by
  by_cases hc : c ∈ ['"', '\\', '\n', '\r', '\t', '\x08', '\x0c']
  · simp only [List.mem_cons, List.not_mem_nil, or_false] at hc
    rcases hc with rfl | rfl | rfl | rfl | rfl | rfl | rfl <;> rfl
  · simp only [List.mem_cons, List.not_mem_nil, or_false, not_or] at hc
    have he : Text.shortEscape? c = none := by simp [Text.shortEscape?, hc]
    rw [Text.quoteChar, he]
    dsimp only
    split
    next h => exact feedAll_unitEscape s h
    next h => simp [feedAll, feed, hc, h]

theorem tokens_quote (s : String) : tokens (Text.quote s).toList = some [.text s] := by
  have hchars : ∀ s cs, feedAll (.text s) (cs.flatMap Text.quoteChar) = some ([], .text (s ++ cs)) := by
    intro s cs
    induction cs generalizing s with
    | nil => rw [List.append_nil, List.flatMap_nil, feedAll]
    | cons c cs ih =>
      rw [List.flatMap_cons, feedAll_append (feedAll_quoteChar s c) (ih _)]
      simp
  refine tokens_of_feedAll ?_
  have hend : feedAll (.text s.toList) ['"'] = some ([.text s], .code) := by
    simp [feedAll, feed]
  have hstart : feedAll .code ['"'] = some ([], .text []) := rfl
  rw [Text.quote, String.toList_ofList]
  exact feedAll_append (a := '"' :: s.toList.flatMap Text.quoteChar)
    (feedAll_append hstart (hchars [] s.toList)) hend

/-! ### Lines and comments -/

/-- Texts with one and the same text before each but the first. -/
theorem toList_intercalate_cons (sep s : String) (rest : List String) :
    (sep.intercalate (s :: rest)).toList =
      s.toList ++ rest.flatMap fun r => sep.toList ++ r.toList := by
  induction rest generalizing s with
  | nil => simp
  | cons r rest ih =>
    rw [String.intercalate_cons_cons, String.toList_append, String.toList_append, ih, List.flatMap_cons]
    simp

/-- Lines that follow others. -/
def broken (lines : List String) : List Char :=
  lines.flatMap fun l => '\n' :: l.toList

theorem breaks_cons {c : Char} (hc : c ∈ separators) (cs : List Char) : Breaks (c :: cs) := by
  intro x hx
  cases hx
  exact (not_contains_of_mem_separators hc).2

theorem breaks_broken (lines : List String) : Breaks (broken lines) := by
  cases lines with
  | nil => rintro c ⟨⟩
  | cons l lines => exact breaks_cons (by decide) _

/-- A line begins with its indentation. -/
theorem feedAll_line (n : Nat) {cs : List Char} {ts : List Token} {m : Mode}
    (h : feedAll .code cs = some (ts, m)) :
    feedAll .code ('\n' :: ((tabs n).toList ++ cs)) = some (.line :: ts, m) := by
  have htabs : feedAll .code (tabs n).toList = some ([], .code) := by
    rw [tabs, String.toList_ofList]
    induction n with
    | zero => rfl
    | succ n ih => exact feedAll_cons.2 ⟨_, _, rfl, ih, rfl⟩
  exact feedAll_cons.2 ⟨_, _, rfl, feedAll_append htabs h, rfl⟩

/-- The machine is inside a comment. -/
def InComment (m : Mode) : Prop :=
  m = .comment ∨ m = .star

/-- Nothing ends a comment but an asterisk and a slash. -/
theorem feedAll_comment {cs : List Char} (h : Document.occursIn ['*', '/'] cs = false) :
    (∃ m, InComment m ∧ feedAll .comment cs = some ([], m)) ∧
      (cs.head? ≠ some '/' → ∃ m, InComment m ∧ feedAll .star cs = some ([], m)) := by
  induction cs with
  | nil => exact ⟨⟨_, Or.inl rfl, rfl⟩, fun _ => ⟨_, Or.inr rfl, rfl⟩⟩
  | cons c cs ih =>
    rw [Document.occursIn, Bool.or_eq_false_iff] at h
    obtain ⟨hp, hcs⟩ := h
    obtain ⟨hcomment, hstar⟩ := ih hcs
    by_cases hc : c = '*'
    · subst hc
      obtain ⟨m, hm, hf⟩ := hstar fun hs => by
        obtain ⟨rest, rfl⟩ := List.head?_eq_some_iff.1 hs
        cases hp
      have hnext : feedAll .comment ('*' :: cs) = some ([], m) := feedAll_cons.2 ⟨_, _, rfl, hf, rfl⟩
      exact ⟨⟨m, hm, hnext⟩, fun _ => ⟨m, hm, feedAll_cons.2 ⟨_, _, rfl, hf, rfl⟩⟩⟩
    · obtain ⟨m, hm, hf⟩ := hcomment
      refine ⟨⟨m, hm, feedAll_cons.2 ⟨([], .comment), _, ?_, hf, rfl⟩⟩,
        fun hs => ⟨m, hm, feedAll_cons.2 ⟨([], .comment), _, ?_, hf, rfl⟩⟩⟩
      · rw [feed, if_neg (by simpa using hc)]
      · rw [feed, if_neg (by simpa using hs), if_neg (by simpa using hc)]

/-- A line in a comment up to its asterisk. -/
theorem feedAll_lineStart {m : Mode} (hm : InComment m) (n : Nat) :
    feedAll m ('\n' :: (List.replicate n '\t' ++ [' ', '*'])) = some ([], .star) := by
  have hpad : feedAll .comment (List.replicate n '\t' ++ [' ', '*']) = some ([], .star) := by
    induction n with
    | zero => rfl
    | succ n ih => exact feedAll_cons.2 ⟨_, _, rfl, ih, rfl⟩
  rcases hm with rfl | rfl
  · exact feedAll_cons.2 ⟨_, _, rfl, hpad, rfl⟩
  · exact feedAll_cons.2 ⟨_, _, rfl, hpad, rfl⟩

theorem feedAll_starred {m : Mode} (hm : InComment m) (n : Nat) {line : String}
    (h : mentions "*/" line = false) :
    ∃ m', InComment m' ∧ feedAll m ('\n' :: (tabs n ++ starred line).toList) = some ([], m') := by
  have hstart := feedAll_lineStart hm n
  by_cases he : line.isEmpty
  · refine ⟨.star, Or.inr rfl, ?_⟩
    simpa [tabs, starred, he] using hstart
  · obtain ⟨m', hm', hf⟩ := (feedAll_comment h).1
    refine ⟨m', hm', ?_⟩
    have hline : feedAll .star (' ' :: line.toList) = some ([], m') := feedAll_cons.2 ⟨_, _, rfl, hf, rfl⟩
    have := feedAll_append hstart hline
    simpa [tabs, starred, he] using this

theorem feedAll_starredLines {m : Mode} (hm : InComment m) (n : Nat) {doc : List String}
    (h : ∀ line ∈ doc, mentions "*/" line = false) :
    ∃ m', InComment m' ∧
      feedAll m (broken (doc.map fun line => tabs n ++ starred line)) = some ([], m') := by
  induction doc generalizing m with
  | nil => exact ⟨m, hm, rfl⟩
  | cons line doc ih =>
    obtain ⟨hline, hdoc⟩ := List.forall_mem_cons.1 h
    obtain ⟨m', hm', hf⟩ := feedAll_starred hm n hline
    obtain ⟨m'', hm'', hf'⟩ := ih hm' hdoc
    exact ⟨m'', hm'', feedAll_append hf hf'⟩

/-- The comment of a field is no more than an end of line. -/
theorem tokens_commentLines (n : Nat) {doc : List String}
    (h : ∀ line ∈ doc, mentions "*/" line = false) :
    tokens (broken (commentLines (tabs n) doc)) = some (if doc.isEmpty then [] else [.line]) := by
  rw [commentLines]
  split
  next => rfl
  next =>
    have hopen : feedAll .code ('\n' :: (tabs n ++ "/**").toList) = some ([.line], .star) := by
      rw [String.toList_append]
      exact feedAll_line n rfl
    obtain ⟨m, hm, hbody⟩ := feedAll_starredLines (Or.inr rfl) n h
    have hclose : feedAll m ('\n' :: (tabs n ++ " */").toList) = some ([], .code) := by
      have hslash : feedAll .star ['/'] = some ([], .code) := rfl
      simpa [tabs] using feedAll_append (feedAll_lineStart hm n) hslash
    refine tokens_of_feedAll ?_
    simpa [broken] using feedAll_append (feedAll_append hopen hbody) hclose

end SchemaDecl.TypeScript
