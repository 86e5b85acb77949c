import SchemaDecl.Proofs.Emission.Documentation
import SchemaDecl.Proofs.Generation.Outcome
import SchemaDecl.Proofs.Python.Keys

/-! The names that declaration modules declare, beside the names that their languages allow. Identifiers
heed the reserved words of Python, so there a declaration is allowed its name unless this is the one that
nothing can be bound to. Of the words that TypeScript refuses they heed those that are reserved in Python
too, and under each of the others a definition gets a declaration that TypeScript does not allow. -/

namespace SchemaDecl

open Identifier (ofName ofName_eq_self ofName_eq_self_iff ofName_wellFormed WellFormed IsWord
  isWord_of_isAlpha isIdentifier_of_isWord letter_of_isAlpha)
open Python (isNameChar isNameChar_of_wellFormed)

/-! ### Names that a language allows -/

namespace TypeScript

/-- Words of the grammar, and those that it sets aside in modules. -/
def grammarWords : List String :=
  ["await", "break", "case", "catch", "class", "const", "continue", "debugger", "default", "delete",
    "do", "else", "enum", "export", "extends", "false", "finally", "for", "function", "if",
    "implements", "import", "in", "instanceof", "interface", "let", "new", "null", "package",
    "private", "protected", "public", "return", "static", "super", "switch", "this", "throw", "true",
    "try", "typeof", "var", "void", "while", "with", "yield"]

/-- Types that are there from the start, whose names no alias may take. -/
def predefinedTypes : List String :=
  ["any", "bigint", "boolean", "never", "number", "object", "string", "symbol", "undefined", "unknown"]

/-- Words that may not name an alias. -/
def refusedWords : List String :=
  grammarWords ++ predefinedTypes

/-- Those of them that are not reserved otherwise. -/
def unheededWords : List String :=
  refusedWords.filter fun w => !isReserved w

/-- A letter and more letters or digits, with dollar signs and joiners among them. -/
def isIdentifierName : List Char → Bool
  | [] => false
  | c :: cs => (Text.identifierStart.contains c || c == '$') && cs.all fun c =>
      Text.identifierContinue.contains c || c == '$' || c == '\u200c' || c == '\u200d'

theorem isIdentifierName_of_isIdentifier {s : String} (h : Text.isIdentifier s = true) :
    isIdentifierName s.toList = true := by
  rw [Text.isIdentifier] at h
  cases hs : s.toList with
  | nil => simp [hs, Text.isIdentifierList] at h
  | cons c cs =>
    rw [hs, Text.isIdentifierList, Bool.and_eq_true, List.all_eq_true] at h
    rw [isIdentifierName, Bool.and_eq_true, List.all_eq_true]
    exact ⟨by rw [h.1, Bool.true_or], fun x hx => by rw [h.2 x hx]; rfl⟩

/-- An identifier is a refused word only if its name is that word, and reserved words of Python are none
of these names. -/
theorem ofName_mem_refusedWords {name : String} :
    ofName name ∈ refusedWords ↔ name ∈ unheededWords := by
  have hall : (refusedWords.all fun w => !w.toList.isEmpty && w.toList.all Char.isAlpha) = true := by
    decide +kernel
  have hletters : ∀ w ∈ refusedWords, w.toList ≠ [] ∧ ∀ c ∈ w.toList, c.isAlpha := by
    intro w hw
    obtain ⟨hne, halpha⟩ := Bool.and_eq_true_iff.1 (List.all_eq_true.1 hall w hw)
    exact ⟨by simpa using hne, List.all_eq_true.1 halpha⟩
  constructor
  · intro h
    have hname := ofName_eq_self fun hu => (letter_of_isAlpha ((hletters _ h).2 _ hu)).2.2 rfl
    have hfree := (ofName_wellFormed name).notReserved
    rw [hname] at h hfree
    exact List.mem_filter.2 ⟨h, by rw [hfree]; rfl⟩
  · intro h
    obtain ⟨hw, hfree⟩ := List.mem_filter.1 h
    obtain ⟨hne, halpha⟩ := hletters name hw
    have hwell : WellFormed name := ⟨isWord_of_isAlpha hne halpha, by simpa using hfree⟩
    rwa [ofName_eq_self_iff.2 hwell]

end TypeScript

namespace Target

/-- A declaration may have the name. -/
def Allows (t : Target) (s : String) : Prop :=
  match t with
  | .python => Text.isIdentifier s = true ∧ isReserved s = false ∧ s ≠ Python.unbindable
  | .typescript => TypeScript.isIdentifierName s.toList = true ∧ s ∉ TypeScript.refusedWords

theorem allows_python_iff {s : String} (h : WellFormed s) :
    Target.python.Allows s ↔ s ≠ Python.unbindable :=
  ⟨fun ha => ha.2.2, fun hne => ⟨isIdentifier_of_isWord h.toIsWord, h.notReserved, hne⟩⟩

theorem allows_typescript_iff {s : String} (h : IsWord s.toList) :
    Target.typescript.Allows s ↔ s ∉ TypeScript.refusedWords :=
  ⟨fun ha => ha.2, fun hne =>
    ⟨TypeScript.isIdentifierName_of_isIdentifier (isIdentifier_of_isWord h), hne⟩⟩

theorem lift_isPrefix_liftName (t : Target) (symbol : String) :
    "lift".toList <+: (Emitter.liftName t symbol).toList := by
  cases t <;> simp [Emitter.liftName]

theorem isWord_liftName (t : Target) {symbol : String} (h : IsWord symbol.toList) :
    IsWord (Emitter.liftName t symbol).toList := by
  have hopening : IsWord "lift".toList ∧ IsWord "lift_".toList :=
    ⟨⟨by decide, List.all_eq_true.1 (by decide), by rintro c ⟨⟩; decide⟩,
      ⟨by decide, List.all_eq_true.1 (by decide), by rintro c ⟨⟩; decide⟩⟩
  cases t <;> rw [Emitter.liftName, String.toList_append]
  · exact hopening.2.append h.chars
  · exact hopening.1.append h.chars

/-- The functions that lift objects are allowed their names. -/
theorem allows_liftName (t : Target) {symbol : String} (h : IsWord symbol.toList) :
    t.Allows (Emitter.liftName t symbol) := by
  have hword := isWord_liftName t h
  have hopens := lift_isPrefix_liftName t symbol
  cases t with
  | python =>
    refine ⟨isIdentifier_of_isWord hword, ?_, fun heq => ?_⟩
    · exact Identifier.not_isReserved_of_underscore (by simp [Emitter.liftName])
    · rw [heq] at hopens
      exact absurd hopens (by decide)
  | typescript =>
    have hwords : ∀ w ∈ TypeScript.refusedWords, ¬"lift".toList <+: w.toList := by
      decide
    exact (allows_typescript_iff hword).2 fun hmem => hwords _ hmem hopens

end Target

/-! ### Names that lines declare -/

namespace Target

/-- What stands in front of the name in a line that declares one. -/
def openings : Target → List String
  | .python => ["class ", "def "]
  | .typescript => ["export type ", "export const "]

/-- The name that a line gives a value to. -/
def assignedName? (line : List Char) : Option String :=
  match line.dropWhile isNameChar with
  | ':' :: ' ' :: _ | ' ' :: '=' :: _ => some (String.ofList (line.takeWhile isNameChar))
  | _ => none

/-- The name that a line declares. -/
def declaredName? (t : Target) (line : String) : Option String :=
  match t.openings.find? fun o => o.toList.isPrefixOf line.toList with
  | some o => some (String.ofList ((line.toList.drop o.length).takeWhile isNameChar))
  | none => if t = .python then assignedName? line.toList else none

theorem declaredName?_opening {t : Target} {opening word rest : String} (hword : IsWord word.toList)
    (hopening : opening ∈ t.openings) (hrest : ∀ c ∈ rest.toList.head?, isNameChar c = false) :
    t.declaredName? (opening ++ word ++ rest) = some word := by
  have hline : (opening ++ word ++ rest).toList = opening.toList ++ (word.toList ++ rest.toList) := by
    simp
  have hchars : ∀ c ∈ word.toList, isNameChar c = true := fun c hc => by
    rw [isNameChar, hword.chars c hc, Bool.true_or]
  -- no opening begins with another one
  have hfind : t.openings.find? (fun o => o.toList.isPrefixOf (opening ++ word ++ rest).toList) =
      some opening := by
    rw [hline]
    cases t <;> simp only [openings, List.mem_cons, List.not_mem_nil, or_false] at hopening <;>
      rcases hopening with rfl | rfl <;> rfl
  rw [declaredName?, hfind]
  dsimp only
  rw [hline, ← String.length_toList, List.drop_left, Text.takeWhile_word hchars hrest,
    String.ofList_toList]

/-- No identifier is a word that opens a declaration. -/
theorem not_isPrefixOf_word {symbol word : String} (h : WellFormed symbol) (hword : isReserved word = true)
    (hchars : ∀ c ∈ word.toList, isNameChar c) {rest : List Char}
    (hrest : ∀ c ∈ rest.head?, isNameChar c = false) :
    ((word ++ " ").toList.isPrefixOf (symbol.toList ++ rest)) = false := by
  rw [Bool.eq_false_iff, Ne, List.isPrefixOf_iff_prefix, String.toList_append]
  rintro ⟨more, hmore⟩
  have htake : (word.toList ++ (' ' :: more)).takeWhile isNameChar = word.toList :=
    Text.takeWhile_word hchars (by rintro c ⟨⟩; decide)
  have hsame : word.toList ++ (' ' :: more) = symbol.toList ++ rest := by
    rw [← hmore]
    simp
  rw [hsame, Text.takeWhile_word (isNameChar_of_wellFormed h) hrest] at htake
  have hfree := h.notReserved
  rw [String.toList_inj.1 htake, hword] at hfree
  exact Bool.noConfusion hfree

theorem declaredName?_assigned {symbol : String} {rest : List Char} {line : String} (h : WellFormed symbol)
    (hline : line.toList = symbol.toList ++ rest)
    (hrest : (∃ more, rest = ':' :: ' ' :: more) ∨ ∃ more, rest = ' ' :: '=' :: more) :
    Target.python.declaredName? line = some symbol := by
  have hstop : ∀ c ∈ rest.head?, isNameChar c = false := by
    rcases hrest with ⟨more, rfl⟩ | ⟨more, rfl⟩ <;>
      · rintro c ⟨⟩
        decide
  have hfind : Target.python.openings.find? (fun o => o.toList.isPrefixOf line.toList) = none := by
    have hclass : "class ".toList.isPrefixOf line.toList = false :=
      hline ▸ not_isPrefixOf_word h (show isReserved "class" = true by decide)
        (List.all_eq_true.1 (by decide)) hstop
    have hdef : "def ".toList.isPrefixOf line.toList = false :=
      hline ▸ not_isPrefixOf_word h (show isReserved "def" = true by decide)
        (List.all_eq_true.1 (by decide)) hstop
    refine List.find?_eq_none.2 fun o ho => ?_
    simp only [openings, List.mem_cons, List.not_mem_nil, or_false] at ho
    rcases ho with rfl | rfl
    · exact Bool.eq_false_iff.1 hclass
    · exact Bool.eq_false_iff.1 hdef
  rw [declaredName?, hfind]
  dsimp only
  rw [if_pos rfl, assignedName?, hline, Text.dropWhile_word (isNameChar_of_wellFormed h) hstop,
    Text.takeWhile_word (isNameChar_of_wellFormed h) hstop, String.ofList_toList]
  rcases hrest with ⟨more, rfl⟩ | ⟨more, rfl⟩ <;> rfl

end Target

/-- A line of the module declares the name. -/
def Module.DeclaresName (m : Module) (t : Target) (name : String) : Prop :=
  ∃ before line after, m.source = Emitter.unlines (before ++ line :: after) ∧
    t.declaredName? line = some name

namespace Emitter

open Target (declaredName?_opening declaredName?_assigned)

section Lines

variable {symbol : String} (h : WellFormed symbol) (docs : List String) (s : Synthesis)

include h

theorem exists_line_pythonDeclaration :
    ∃ line ∈ pythonDeclaration symbol docs s, Target.python.declaredName? line = some symbol := by
  obtain ⟨t, deps⟩ := s
  have hclass : Target.python.declaredName? ("class " ++ symbol ++ "(TypedDict):") = some symbol :=
    declaredName?_opening h.toIsWord (by decide) (by rintro c ⟨⟩; decide)
  have hcall : Target.python.declaredName? (symbol ++ " = TypedDict(") = some symbol :=
    declaredName?_assigned h String.toList_append (Or.inr ⟨_, rfl⟩)
  have halias : ∀ target, Target.python.declaredName? (symbol ++ ": TypeAlias = " ++ target) =
      some symbol := fun target =>
    declaredName?_assigned h (by rw [String.append_assoc, String.toList_append])
      (Or.inl ⟨" TypeAlias = ".toList.tail ++ target.toList, by simp⟩)
  cases t with
  | record fields =>
    rw [pythonDeclaration]
    dsimp only
    split
    next => exact ⟨_, List.mem_append_left _ List.mem_cons_self, hclass⟩
    next => exact ⟨_, by simp [pythonCall], hcall⟩
  | _ => exact ⟨_, List.mem_append_right _ List.mem_cons_self, halias _⟩

theorem exists_line_pythonLift :
    ∃ line ∈ pythonLift symbol, Target.python.declaredName? line = some (liftName .python symbol) := by
  have hname : Target.python.declaredName? ("def " ++ liftName .python symbol ++
      ("(original: " ++ symbol ++ ") -> " ++ symbol ++ ":")) = some (liftName .python symbol) :=
    declaredName?_opening (Target.isWord_liftName .python h.toIsWord) (by decide)
      (by simp [isNameChar, Identifier.isLetterOrDigit])
  refine ⟨_, ?_, hname⟩
  have hline : "def " ++ liftName .python symbol ++ ("(original: " ++ symbol ++ ") -> " ++ symbol ++ ":") =
      "def lift_" ++ symbol ++ "(original: " ++ symbol ++ ") -> " ++ symbol ++ ":" :=
    String.toList_inj.1 (by simp [liftName])
  rw [hline]
  exact List.mem_cons_of_mem _ (List.mem_cons_of_mem _ List.mem_cons_self)

theorem exists_line_typescriptDeclaration : ∃ line ∈ typescriptDeclaration symbol docs s.type,
    Target.typescript.declaredName? line = some symbol := by
  have hname : Target.typescript.declaredName?
      ("export type " ++ symbol ++ (" = " ++ TypeScript.typeText 0 s.type)) = some symbol :=
    declaredName?_opening h.toIsWord (by decide) (by simp [isNameChar, Identifier.isLetterOrDigit])
  rw [← String.append_assoc] at hname
  exact ⟨_, List.mem_append_left _ (List.mem_append_right _ List.mem_cons_self), hname⟩

theorem exists_line_typescriptLift : ∃ line ∈ typescriptLift symbol,
    Target.typescript.declaredName? line = some (liftName .typescript symbol) := by
  have hname : Target.typescript.declaredName? ("export const " ++ liftName .typescript symbol ++
      (" = (original: " ++ symbol ++ ") => \x7b")) = some (liftName .typescript symbol) :=
    declaredName?_opening (Target.isWord_liftName .typescript h.toIsWord) (by decide)
      (by simp [isNameChar, Identifier.isLetterOrDigit])
  refine ⟨_, ?_, hname⟩
  have hline : "export const " ++ liftName .typescript symbol ++
      (" = (original: " ++ symbol ++ ") => \x7b") =
        "export const lift" ++ symbol ++ " = (original: " ++ symbol ++ ") => \x7b" :=
    String.toList_inj.1 (by simp [liftName])
  rw [hline]
  exact List.mem_cons_of_mem _ (List.mem_cons_of_mem _ (List.mem_cons_of_mem _ List.mem_cons_self))

end Lines

/-- The lines of a declaration declare its symbol, and those of a record the function that lifts it. -/
theorem exists_line_declarationLines (e : Emitter) {symbol : String} (h : WellFormed symbol)
    (imports docs : List String) (s : Synthesis) :
    (∃ line ∈ e.declarationLines symbol imports docs s, e.target.declaredName? line = some symbol) ∧
      (s.type.isRecord = true → ∃ line ∈ e.declarationLines symbol imports docs s,
        e.target.declaredName? line = some (liftName e.target symbol)) := by
  unfold declarationLines
  cases e.target with
  | python =>
    obtain ⟨line, hmem, hline⟩ := exists_line_pythonDeclaration h docs s
    refine ⟨⟨line, List.mem_append_right _ hmem, hline⟩, fun hr => ?_⟩
    obtain ⟨t, deps⟩ := s
    cases t with
    | record fields =>
      obtain ⟨lifting, hlifting, hname⟩ := exists_line_pythonLift h
      exact ⟨lifting, List.mem_append_right _ (List.mem_append_right _ hlifting), hname⟩
    | _ => cases hr
  | typescript =>
    obtain ⟨line, hmem, hline⟩ := exists_line_typescriptDeclaration h docs s
    refine ⟨⟨line, List.mem_append_right _ hmem, hline⟩, fun hr => ?_⟩
    obtain ⟨line, hmem, hline⟩ := exists_line_typescriptLift h
    refine ⟨line, List.mem_append_right _ (List.mem_append_right _ ?_), hline⟩
    rwa [if_pos hr]

/-- Each name that a declaration module exports is declared by one of its lines. -/
theorem Declares.declaresName {e : Emitter} {name : String} {s : Synthesis} {m : Module}
    (h : e.Declares name s m) : ∀ x ∈ m.exports, m.DeclaresName e.target x := by
  obtain ⟨docs, hsource⟩ := h.exists_source
  obtain ⟨hsymbol, hlift⟩ := e.exists_line_declarationLines (ofName_wellFormed name)
    (e.importLines s.deps (some (.text name))) docs s
  have hdeclares : ∀ x, (∃ line ∈ e.declarationLines (ofName name)
      (e.importLines s.deps (some (.text name))) docs s, e.target.declaredName? line = some x) →
      m.DeclaresName e.target x := by
    rintro x ⟨line, hmem, hline⟩
    obtain ⟨before, after, hlines⟩ := List.append_of_mem hmem
    exact ⟨before, line, after, by rw [hsource, hlines], hline⟩
  intro x hx
  rw [h.exports_eq] at hx
  split at hx
  next hr =>
    simp only [List.mem_cons, List.not_mem_nil, or_false] at hx
    rcases hx with rfl | rfl
    · exact hdeclares _ hsymbol
    · exact hdeclares _ (hlift hr)
  next =>
    rw [List.mem_singleton.1 hx]
    exact hdeclares _ hsymbol

end Emitter

/-! ### Declarations of a run -/

namespace Generation

/-- The identifier of a name is one that a declaration may have in Python, if something can be bound to it;
and in TypeScript if the name is none of the words that identifiers do not heed there. Under that identifier,
which a line declares, each module of a run exports its declaration; the function that lifts it is declared
as well, and is always allowed its name. -/
theorem declared_names_allowed_iff (name : String) (doc : Document) (settings : Settings)
    (previous : List Registry.Entry) :
    (Text.isIdentifier (ofName name) = true ∧ isReserved (ofName name) = false ∧
      (Target.python.Allows (ofName name) ↔ ofName name ≠ Python.unbindable) ∧
      (Target.typescript.Allows (ofName name) ↔ name ∉ TypeScript.unheededWords)) ∧
    ∀ g, (run doc settings previous).result = .ok g → ∀ m ∈ g.declarations,
      ∃ s x, (.text s, x) ∈ doc.entries ∧ m.name = ofName s ∧
        (∀ y ∈ m.exports, m.DeclaresName settings.target y) ∧
        (m.exports = [m.name] ∨ m.exports = [m.name, Emitter.liftName settings.target m.name]) ∧
        settings.target.Allows (Emitter.liftName settings.target m.name) := by
  refine ⟨?_, fun g hg m hm => ?_⟩
  · have hword := ofName_wellFormed name
    refine ⟨isIdentifier_of_isWord hword.toIsWord, hword.notReserved, Target.allows_python_iff hword, ?_⟩
    rw [Target.allows_typescript_iff hword.toIsWord, TypeScript.ofName_mem_refusedWords]
  · obtain ⟨⟨n, x⟩, hx, hdeclare⟩ := (outcomes_of_run hg).exists_declare hm
    obtain ⟨typed, -, hmodule⟩ := declare_eq_module.1 hdeclare
    obtain ⟨s, rfl⟩ : ∃ s, n = .text s := by
      cases n with
      | text s => exact ⟨s, rfl⟩
      | other v => cases hmodule
    have hd := Emitter.declares_of_declaration hmodule
    refine ⟨s, x, hx, hd.name_eq, hd.declaresName, ?_, ?_⟩
    · rw [hd.exports_eq, hd.name_eq]
      split
      next => exact Or.inr rfl
      next => exact Or.inl rfl
    · rw [hd.name_eq]
      exact Target.allows_liftName _ (ofName_wellFormed s).toIsWord

/-- A record and a text, under words that one of the languages reserves. -/
def wordy : Document :=
  ⟨[(.text "class", { Definition.blank with type := some "object" }),
    (.text "function", { Definition.blank with type := some "string" })]⟩

theorem declared_names_allowed_iff_wordy :
    Target.typescript.Allows (ofName "class") ∧ Target.python.Allows (ofName "function") ∧
      ∃ g, (run wordy { target := .typescript } []).result = .ok g ∧
        g.declarations.map Module.exports = [["class_", "liftclass_"], ["function"]] ∧
        ∀ m ∈ g.declarations, ∀ y ∈ m.exports, m.DeclaresName .typescript y := by
  obtain ⟨⟨-, -, -, hclass⟩, hrun⟩ :=
    declared_names_allowed_iff "class" wordy { target := .typescript } []
  obtain ⟨⟨-, -, hfunction, -⟩, -⟩ :=
    declared_names_allowed_iff "function" wordy { target := .typescript } []
  obtain ⟨g, hg, hexports⟩ : ∃ g, (run wordy { target := .typescript } []).result = .ok g ∧
      g.declarations.map Module.exports = [["class_", "liftclass_"], ["function"]] :=
    ⟨_, rfl, by decide⟩
  refine ⟨hclass.2 (by decide), hfunction.2 (by decide), g, hg, hexports, fun m hm => ?_⟩
  obtain ⟨name, x, -, -, hdeclares, -⟩ := hrun g hg m hm
  exact hdeclares

/-- Under a word that identifiers do not heed, an alias is declared that TypeScript does not allow; and in
Python there is the one name that a declaration cannot be given. -/
theorem not_allows_function :
    ¬Target.typescript.Allows (ofName "function") ∧ ¬Target.python.Allows (ofName "__debug__") ∧
      ∃ g m, (run wordy { target := .typescript } []).result = .ok g ∧ m ∈ g.declarations ∧
        m.name = "function" ∧ m.source = Emitter.unlines
          ["/**", " * Auto-generated file. Do not change.", " */", "export type function = string"] := by
  refine ⟨fun h => ?_, fun h => ?_, _, _, rfl, List.mem_cons_of_mem _ List.mem_cons_self, ?_, ?_⟩
  · exact h.2 (by decide)
  · exact h.2.2 (by decide)
  · decide
  · decide

end Generation

end SchemaDecl
