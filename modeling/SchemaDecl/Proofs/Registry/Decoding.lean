import SchemaDecl.Proofs.Emission.Documentation
import SchemaDecl.Proofs.Registry.History
import SchemaDecl.Proofs.Target.Literal
import SchemaDecl.Proofs.Text.Cutting

/-! The enumeration of a registry is read back line by line. Behind the line that opens it, apart from the
remark on the class, blank lines and the bracket that closes it, every line is an identifier, an equals
sign and a literal. Neither identifiers nor literals hold a line end, and each shows its own end, so
the entries come back as they were, in their order, from the module of either language. -/

namespace SchemaDecl

open Identifier (WellFormed isDigit isLetterOrDigit)

/-! ### The text that a string is -/

namespace Target

/-- The number of the character that two units stand for together. -/
def joined (lead trail : Nat) : Nat :=
  0x10000 + ((lead - 0xD800) * 1024 + (trail - 0xDC00))

/-- The numbers of the characters that units make. -/
def numbers (t : Target) : List Nat → List Nat
  | [] => []
  | [n] => [n]
  | n :: m :: us =>
    if t = .typescript ∧ 0xD800 ≤ n ∧ n < 0xDC00 ∧ 0xDC00 ≤ m ∧ m < 0xE000 then
      joined n m :: numbers t us
    else n :: numbers t (m :: us)

/-- The character of a number, unless it is that of half a pair or beyond all characters. -/
def character? (n : Nat) : Option Char :=
  if n.isValidChar then some (Char.ofNat n) else none

/-- The text that a string is, if it is one. -/
def text? (t : Target) (us : List Nat) : Option String :=
  ((t.numbers us).mapM character?).map String.ofList

example : Target.typescript.text? [97, 0xD83D, 0xDE00] = some "a😀" := by
  decide +kernel

variable (t : Target)

theorem numbers_units (c : Char) (us : List Nat) :
    t.numbers (t.units c ++ us) = c.toNat :: t.numbers us := by
  have hc := Text.toNat_char_bounds c
  have hsingle : t.units c = [c.toNat] → t.numbers (t.units c ++ us) = c.toNat :: t.numbers us := by
    intro h
    rw [h, List.singleton_append]
    cases us with
    | nil => rfl
    -- no number of a character is that of the first half of a pair
    | cons m us => rw [numbers, if_neg (by omega)]
  cases t with
  | python => exact hsingle rfl
  | typescript =>
    by_cases hplane : c.toNat < 0x10000
    · exact hsingle (by rw [units, unitsOf, if_pos hplane])
    · have hpair : Target.typescript.units c =
          [0xD800 + (c.toNat - 0x10000) / 1024, 0xDC00 + (c.toNat - 0x10000) % 1024] := by
        rw [units, unitsOf, if_neg hplane]
      have hjoined : joined (0xD800 + (c.toNat - 0x10000) / 1024)
          (0xDC00 + (c.toNat - 0x10000) % 1024) = c.toNat := by
        unfold joined
        omega
      rw [hpair, List.cons_append, List.singleton_append, numbers, hjoined,
        if_pos ⟨rfl, by omega, by omega, by omega, by omega⟩]

theorem character?_toNat (c : Char) : character? c.toNat = some c := by
  have hvalid : c.toNat.isValidChar := c.valid
  rw [character?, if_pos hvalid, Char.ofNat_toNat]

/-- The string that a text is tells the text. -/
theorem text?_denotation (s : String) : t.text? (t.denotation s) = some s := by
  have hnumbers : ∀ cs : List Char, t.numbers (cs.flatMap t.units) = cs.map Char.toNat := by
    intro cs
    induction cs with
    | nil => rfl
    | cons c cs ih => rw [List.flatMap_cons, numbers_units, ih, List.map_cons]
  have hcharacters : ∀ cs : List Char, (cs.map Char.toNat).mapM character? = some cs := by
    intro cs
    induction cs with
    | nil => rfl
    | cons c cs ih => simp [character?_toNat, ih]
  rw [text?, denotation, hnumbers, hcharacters, Option.map_some, String.ofList_toList]

end Target

/-! ### Lines -/

/-- The lines of a file, whichever of the usual ends they have. Separators of lines and paragraphs end no
line of a file, and may stand in a literal for themselves. -/
def fileLines (s : String) : List String :=
  ((Text.unifyNewlinesList s.toList).splitOn '\n').map String.ofList

theorem return_notMem_unlines {ls : List String} (h : ∀ l ∈ ls, Unbroken l) :
    '\r' ∉ (Emitter.unlines ls).toList := by
  induction ls with
  | nil => simp [Emitter.unlines]
  | cons l ls ih =>
    obtain ⟨hl, hls⟩ := List.forall_mem_cons.1 h
    have hnot : '\r' ∉ l.toList := fun hm => (hl _ hm).2 rfl
    simp [Emitter.unlines_cons, hnot, ih hls]

/-- A text of lines is cut into them, and what is behind the last end is empty. -/
theorem fileLines_unlines {ls : List String} (h : ∀ l ∈ ls, Unbroken l) :
    fileLines (Emitter.unlines ls) = ls ++ [""] := by
  rw [fileLines, Text.unifyNewlinesList_eq_self (return_notMem_unlines h)]
  induction ls with
  | nil => rfl
  | cons l ls ih =>
    obtain ⟨hl, hls⟩ := List.forall_mem_cons.1 h
    have htext : (Emitter.unlines (l :: ls)).toList =
        l.toList ++ '\n' :: (Emitter.unlines ls).toList := by
      simp [Emitter.unlines_cons]
    rw [htext, List.splitOn_append_cons_self_of_not_mem (fun hm => (hl _ hm).1 rfl), List.map_cons,
      String.ofList_toList, ih hls, List.cons_append]

namespace Registry

/-! ### The lines of an enumeration -/

section Layout

variable (t : Target)

/-- The line that opens the enumeration. -/
def openingLine : Target → String
  | .python => "class TypeRegistry(str, enum.Enum):"
  | .typescript => "export enum TypeRegistry \x7b"

def indentation : Target → List Char
  | .python => [' ', ' ', ' ', ' ']
  | .typescript => ['\t']

/-- What stands behind a literal. -/
def memberEnd : Target → List Char
  | .python => []
  | .typescript => [',']

/-- What a line begins with that is the remark on a class. -/
def remarkStart : List Char :=
  indentation .python ++ ['"', '"', '"']

/-- The lines that are no members: blank ones, the remark on the class, and the bracket at the end. -/
def isApart (line : String) : Bool :=
  line.toList.all Text.isBlank ||
    match t with
    | .python => remarkStart.isPrefixOf line.toList
    | .typescript => line == "\x7d"

/-- The lines of the members in the text of an enumeration. -/
def memberLines (source : String) : List String :=
  (((fileLines source).dropWhile (· ≠ openingLine t)).drop 1).filter fun line => !isApart t line

/-- The entry that a line is: an identifier, an equals sign and a literal. -/
def memberOf? (line : String) : Option Entry := do
  let member ← line.toList.dropPrefix? (indentation t)
  let identifier := member.takeWhile isLetterOrDigit
  let value ← (member.dropWhile isLetterOrDigit).dropPrefix? [' ', '=', ' ']
  let (units, behind) ← t.readLiteral value
  let discriminant ← t.text? units
  if identifier.head?.any (fun c => !isDigit c) ∧ behind = memberEnd t then
    some ⟨String.ofList identifier, discriminant⟩
  else none

/-- The entries of an enumeration, if all its members are some. -/
def decode (source : String) : Option (List Entry) :=
  (memberLines t source).mapM (memberOf? t)

example : decode .typescript "export enum TypeRegistry \x7b\n\tA = \"\\ud83d\\ude00\",\n\x7d\n" =
    some [⟨"A", "😀"⟩] := by
  decide +kernel

end Layout

/-! ### The lines of a module -/

/-- What stands above the line that opens the enumeration. -/
def preamble (t : Target) (header : String) : List String :=
  match t with
  | .python =>
    [Emitter.banner header, "", "from __future__ import annotations", "", "import enum", "", ""]
  | .typescript => Emitter.comment header

def classRemark : String :=
  "    \"\"\"Discriminant (\x60\x60_object\x60\x60) value of every tagged API type.\"\"\""

/-- What stands between that line and the members. -/
def remark (t : Target) (r : Registry) : List String :=
  match t with
  | .python => classRemark :: if r.entries.isEmpty then [] else [""]
  | .typescript => []

def closing : Target → List String
  | .python => []
  | .typescript => ["\x7d"]

section Member

variable (t : Target) (x : Entry)

def memberLine : String :=
  String.ofList (indentation t ++ (x.identifier.toList ++
    ([' ', '=', ' '] ++ ((literal x.discriminant).toList ++ memberEnd t))))

variable {t x}

theorem unbroken_memberLine (h : WellFormed x.identifier) : Unbroken (memberLine t x) := by
  have hword : ∀ c, isLetterOrDigit c → c ≠ '\n' ∧ c ≠ '\r' := by
    intro c hc
    constructor
    · rintro rfl
      exact absurd hc (by decide)
    · rintro rfl
      exact absurd hc (by decide)
  have hliteral : Unbroken (literal x.discriminant) :=
    unbroken_of_noControls (t.denotes_literal x.discriminant).no_control
  rw [Unbroken, memberLine, String.toList_ofList]
  simp only [List.forall_mem_append]
  exact ⟨by cases t <;> simp [indentation], fun c hc => hword c (h.chars c hc), by simp, hliteral,
    by cases t <;> simp [memberEnd]⟩

/-- No line of a member is taken for anything else. -/
theorem isApart_memberLine (h : WellFormed x.identifier) : isApart t (memberLine t x) = false := by
  have hblank : (memberLine t x).toList.all Text.isBlank = false := by
    rw [List.all_eq_false]
    exact ⟨'=', by simp [memberLine], by decide⟩
  unfold isApart
  rw [hblank, Bool.false_or]
  obtain ⟨c, word, hword⟩ := List.exists_cons_of_ne_nil h.nonempty
  have hletter : isLetterOrDigit c := h.chars c (by simp [hword])
  cases t with
  | python =>
    have hquote : c ≠ '"' := by
      rintro rfl
      exact absurd hletter (by decide)
    have hopen : ['"', '"', '"'].isPrefixOf (c :: (word ++ ' ' :: '=' :: ' ' ::
        ((literal x.discriminant).toList ++ memberEnd .python))) = false := by
      rw [List.isPrefixOf, beq_false_of_ne hquote.symm, Bool.false_and]
    simpa [memberLine, remarkStart, indentation, hword] using hopen
  | typescript =>
    have hne : memberLine .typescript x ≠ "\x7d" := by
      intro heq
      have hlist := congrArg String.toList heq
      simp [memberLine, indentation] at hlist
    simpa using hne

/-- The line of a member is read as the entry. -/
theorem memberOf?_memberLine (h : WellFormed x.identifier) : memberOf? t (memberLine t x) = some x := by
  have hdrop : ∀ mark rest : List Char, (mark ++ rest).dropPrefix? mark = some rest :=
    fun mark rest => List.dropPrefix?_append_of_beq rest (beq_self_eq_true mark)
  have hstop : ∀ rest : List Char, ∀ c ∈ ([' ', '=', ' '] ++ rest).head?, isLetterOrDigit c = false := by
    rintro rest c ⟨⟩
    decide
  have hread : t.readLiteral ((literal x.discriminant).toList ++ memberEnd t) =
      some (t.denotation x.discriminant, memberEnd t) :=
    (t.denotes_literal x.discriminant).reads _ (by cases t <;> decide)
  have hstart : x.identifier.toList.head?.any fun c => !isDigit c := by
    obtain ⟨c, word, hword⟩ := List.exists_cons_of_ne_nil h.nonempty
    have hc := h.start c (by rw [hword]; rfl)
    simpa [hword] using hc
  rw [memberOf?, memberLine, String.toList_ofList, hdrop]
  simp only [Option.bind_eq_bind, Option.bind_some, Text.takeWhile_word h.chars (hstop _),
    Text.dropWhile_word h.chars (hstop _), hdrop, hread, t.text?_denotation,
    String.ofList_toList]
  exact if_pos ⟨hstart, trivial⟩

end Member

section Module

variable {e : Emitter} {r : Registry}

theorem source_eq_unlines (e : Emitter) (r : Registry) :
    (e.registry r).source = Emitter.unlines (preamble e.target e.header ++
      openingLine e.target :: (remark e.target r ++ (r.entries.map (memberLine e.target) ++
        closing e.target))) := by
  have hpython : ∀ x : Entry, "    " ++ (x.identifier ++ " = " ++ literal x.discriminant ++ "") =
      memberLine .python x := by
    intro x
    rw [← String.toList_inj]
    simp [memberLine, indentation, memberEnd]
  have htypescript : ∀ x : Entry, "\t" ++ (x.identifier ++ " = " ++ literal x.discriminant ++ ",") =
      memberLine .typescript x := by
    intro x
    rw [← String.toList_inj]
    simp [memberLine, indentation, memberEnd]
  cases ht : e.target with
  | python =>
    simp only [Emitter.registry, ht, hpython]
    simp [preamble, remark, classRemark, closing, openingLine, symbol]
  | typescript =>
    simp only [Emitter.registry, ht, htypescript]
    simp [preamble, remark, closing, openingLine, symbol]

/-- Nothing above the enumeration is broken or opens it. -/
theorem of_mem_preamble {t : Target} {header line : String} (h : Unbroken header)
    (hm : line ∈ preamble t header) : Unbroken line ∧ line ≠ openingLine t := by
  cases t with
  | python =>
    have hfixed : ∀ l ∈ ["", "from __future__ import annotations", "", "import enum", "", ""],
        Unbroken l ∧ l ≠ openingLine .python := by
      decide
    rcases List.mem_cons.1 hm with rfl | hm
    · have hquotes : Unbroken "\"\"\"" := by decide
      refine ⟨unbroken_append.2 ⟨unbroken_append.2 ⟨hquotes, h⟩, hquotes⟩, fun heq => ?_⟩
      have hlist := congrArg String.toList heq
      simp [Emitter.banner, openingLine] at hlist
    · exact hfixed line hm
  | typescript =>
    have hfixed : ∀ l ∈ ["/**", " */"], Unbroken l ∧ l ≠ openingLine .typescript := by decide
    have hstar : Unbroken " * " := by decide
    simp only [preamble, Emitter.comment, List.mem_cons, List.not_mem_nil, or_false] at hm
    rcases hm with rfl | rfl | rfl
    · exact hfixed _ (by decide)
    · refine ⟨unbroken_append.2 ⟨hstar, h⟩, fun heq => ?_⟩
      have hlist := congrArg String.toList heq
      simp [openingLine] at hlist
    · exact hfixed _ (by decide)

/-- Nothing beside the members is broken or taken for one. -/
theorem of_mem_remark {t : Target} {line : String} (hm : line ∈ remark t r) :
    Unbroken line ∧ isApart t line := by
  cases t with
  | python =>
    have hlines : ∀ l ∈ [classRemark, ""], Unbroken l ∧ isApart .python l := by decide
    refine hlines line ?_
    rcases List.mem_cons.1 hm with rfl | hm
    · exact List.mem_cons_self
    · split at hm
      · cases hm
      · exact List.mem_cons_of_mem _ hm
  | typescript => cases hm

theorem of_mem_closing {t : Target} {line : String} (hm : line ∈ closing t) :
    Unbroken line ∧ isApart t line := by
  have hlines : ∀ l ∈ closing t, Unbroken l ∧ isApart t l := by
    cases t <;> decide
  exact hlines line hm

/-- The lines of the members are those of the entries. -/
theorem memberLines_registry (hheader : Unbroken e.header) (h : ∀ x ∈ r.entries, WellFormed x.identifier) :
    memberLines e.target (e.registry r).source = r.entries.map (memberLine e.target) := by
  generalize ht : e.target = t
  have hopening : Unbroken (openingLine t) := by
    cases t <;> decide
  have hunbroken : ∀ line ∈ preamble t e.header ++ openingLine t ::
      (remark t r ++ (r.entries.map (memberLine t) ++ closing t)), Unbroken line := by
    simp only [List.forall_mem_append, List.forall_mem_cons, List.forall_mem_map]
    exact ⟨fun line hm => (of_mem_preamble hheader hm).1, hopening,
      fun line hm => (of_mem_remark hm).1, fun x hx => unbroken_memberLine (h x hx),
      fun line hm => (of_mem_closing hm).1⟩
  -- the text is cut behind the first line that opens the enumeration, and the header is none
  have habove : ∀ line ∈ preamble t e.header, decide (line ≠ openingLine t) :=
    fun line hm => decide_eq_true (of_mem_preamble hheader hm).2
  have hremark : (remark t r).filter (fun line => !isApart t line) = [] :=
    List.filter_eq_nil_iff.2 fun line hm => by simp [(of_mem_remark hm).2]
  have hmembers : (r.entries.map (memberLine t)).filter (fun line => !isApart t line) =
      r.entries.map (memberLine t) := by
    rw [List.filter_eq_self, List.forall_mem_map]
    intro x hx
    rw [isApart_memberLine (h x hx), Bool.not_false]
  have hclosing : (closing t ++ [""]).filter (fun line => !isApart t line) = [] := by
    cases t <;> decide
  rw [memberLines, source_eq_unlines, ht, fileLines_unlines hunbroken, List.append_assoc,
    List.dropWhile_append_of_pos habove, List.cons_append, List.dropWhile_cons_of_neg (by simp),
    List.drop_succ_cons, List.drop_zero, List.append_assoc, List.append_assoc, List.filter_append,
    List.filter_append, hremark, hmembers, hclosing, List.append_nil, List.nil_append]

end Module

theorem mapM_memberOf? {t : Target} {xs : List Entry} (h : ∀ x ∈ xs, WellFormed x.identifier) :
    (xs.map (memberLine t)).mapM (memberOf? t) = some xs := by
  induction xs with
  | nil => rfl
  | cons x xs ih =>
    obtain ⟨hx, hxs⟩ := List.forall_mem_cons.1 h
    simp [memberOf?_memberLine hx, ih hxs]

/-- The enumeration of a registry that a document gives is lossless. In either language, and whatever the
header, its lines apart from those that are no members are one for each entry, each of them is read as the
entry, and so the modules of both languages have the same entries. -/
theorem decode_registry (d : Document) (hn : d.Textual) :
    ∃ r, (build d []).result = .ok r ∧
      (∀ e : Emitter, Unbroken e.header →
        (memberLines e.target (e.registry r).source).map (memberOf? e.target) = r.entries.map some ∧
          decode e.target (e.registry r).source = some r.entries) ∧
      ∀ e e' : Emitter, Unbroken e.header → Unbroken e'.header →
        decode e.target (e.registry r).source = decode e'.target (e'.registry r).source := by
  obtain ⟨r, hr⟩ : ∃ r, (build d []).result = .ok r := exists_build hn List.nodup_nil List.nodup_nil
  have hwell : ∀ x ∈ r.entries, WellFormed x.identifier := wellFormed_of_build hn hr nofun
  have hdecode : ∀ e : Emitter, Unbroken e.header →
      decode e.target (e.registry r).source = some r.entries := by
    intro e he
    rw [decode, memberLines_registry he hwell, mapM_memberOf? hwell]
  refine ⟨r, hr, fun e he => ⟨?_, hdecode e he⟩, fun e e' he he' => ?_⟩
  · rw [memberLines_registry he hwell, List.map_map]
    exact List.map_congr_left fun x hx => memberOf?_memberLine (hwell x hx)
  · rw [hdecode e he, hdecode e' he']

/-- Two objects with names that are the same identifier, told by discriminants that hold what stands
between members. -/
def entwined : Document :=
  ⟨[(.text "a b", .tagged "\", \n"), (.text "a_b", .tagged " = 😀")]⟩

theorem decode_registry_entwined :
    ∃ r, (build entwined []).result = .ok r ∧
      r.entries = [⟨"a_b", "\", \n"⟩, ⟨"a_b_2", " = 😀"⟩] ∧
      decode .python (Emitter.registry ⟨.python, [], "A"⟩ r).source = some r.entries ∧
      decode .typescript (Emitter.registry ⟨.typescript, [], "A"⟩ r).source = some r.entries := by
  have hheader : Unbroken "A" := by decide
  obtain ⟨r, hr, hlines, -⟩ := decode_registry entwined (by simp [entwined])
  have hentries : (build entwined []).result.toOption.map entries =
      some [⟨"a_b", "\", \n"⟩, ⟨"a_b_2", " = 😀"⟩] := by
    decide +kernel
  rw [hr] at hentries
  exact ⟨r, hr, Option.some.inj hentries, (hlines ⟨.python, [], "A"⟩ hheader).2,
    (hlines ⟨.typescript, [], "A"⟩ hheader).2⟩

end Registry

end SchemaDecl
