import Mathlib.Data.List.Nodup
import SchemaDecl.Proofs.FirstSeen
import SchemaDecl.Proofs.Identifier.Words
import SchemaDecl.Proofs.Python.ClassBody
import SchemaDecl.Proofs.Python.Remarks
import SchemaDecl.Proofs.Registry.Build
import SchemaDecl.Proofs.Target.Literal
import SchemaDecl.Proofs.Text.Cutting
import SchemaDecl.Proofs.Text.Normalization

/-! The keys that the declaration of a record in Python gives to it when the module is imported. A call has
them between quotes, as they are. A class has them as names in its body, which are brought to their normal
form and then mangled if they are private, so a key may come out as another one there. -/

namespace SchemaDecl

open Identifier (isLetterOrDigit)

namespace Python

/-! ### Keys of a class -/

/-- Characters that belong to the name before them. Those beyond ASCII do, whether names may hold them or
not. -/
def isNameChar (c : Char) : Bool :=
  isLetterOrDigit c || 128 ≤ c.toNat

/-- The name that nothing can be bound to. -/
def unbindable : String :=
  "__debug__"

/-- What a word in the body of the class `cls` binds. -/
def boundName? (cls word : List Char) : Option (List Char) :=
  if Text.isIdentifierList word && !isReserved (String.ofList word) &&
      Text.normalForm word != unbindable.toList then
    some (mangled cls (Text.normalForm word))
  else none

/-- The key of a line that annotates a name. -/
def annotatedKey? (cls : List Char) (line : String) : Option (List Nat) :=
  match line.toList with
  | ' ' :: ' ' :: ' ' :: ' ' :: cs =>
    match cs.dropWhile isNameChar with
    | ':' :: ' ' :: _ => (boundName? cls (cs.takeWhile isNameChar)).map fun name => name.map Char.toNat
    | _ => none
  | _ => none

/-! ### Keys of a call -/

/-- The key of a line between braces. -/
def entryKey? (line : String) : Option (List Nat) :=
  match line.toList with
  | ' ' :: ' ' :: ' ' :: ' ' :: ' ' :: ' ' :: ' ' :: ' ' :: cs =>
    match Target.python.readLiteral cs with
    | some (key, ':' :: ' ' :: rest) =>
      match Target.python.readLiteral rest with
      | some (_, [',']) => some key
      | _ => none
    | _ => none
  | _ => none

/-! ### Keys of a declaration -/

def isComment (line : String) : Bool :=
  (line.toList.dropWhile (· == ' ')).head? == some '#'

/-- Whether a line is in the body that the line before opened. -/
def isInside (line : String) : Bool :=
  line.isEmpty || line.toList.head? == some ' '

/-- Whether a line in a body is no comment, no documentation string and not empty. -/
def isStatement (line : String) : Bool :=
  !line.isEmpty && !isComment line && !"    \"\"\"".toList.isPrefixOf line.toList && line != "    pass"

/-- The keys that the lines of a declaration give to a record, each at its first place. There are none if
the lines cannot be compiled. -/
def declaredKeys? (lines : List String) : Option (List (List Nat)) :=
  match lines.dropWhile isComment with
  | [] => none
  | head :: body =>
    if "class ".toList.isPrefixOf head.toList then
      let cls := (head.toList.drop 6).takeWhile isNameChar
      (((body.takeWhile isInside).filter isStatement).mapM (annotatedKey? cls)).map firstSeen
    else (((body.drop 2).takeWhile fun line => line != "    \x7d,").mapM entryKey?).map firstSeen

theorem isNameChar_of_isIdentifierList {s : List Char} (h : Text.isIdentifierList s = true) :
    ∀ c ∈ s, isNameChar c = true := by
  intro c hc
  rw [isNameChar, Bool.or_eq_true, decide_eq_true_eq]
  by_cases hlt : c.toNat < 128
  · exact Or.inl (Identifier.isLetterOrDigit_of_isIdentifierList h c hc hlt)
  · exact Or.inr (by omega)

theorem isNameChar_of_wellFormed {s : String} (h : Identifier.WellFormed s) :
    ∀ c ∈ s.toList, isNameChar c = true := by
  intro c hc
  rw [isNameChar, h.chars c hc, Bool.true_or]

theorem isFieldName_eq_true_iff {name : String} : isFieldName name = true ↔
    (dunder <+: name.toList → dunder <:+ name.toList) ∧ Text.isIdentifierList name.toList = true ∧
      isReserved name = false := by
  simp only [isFieldName, Text.isIdentifier, Bool.and_eq_true, Bool.not_eq_true', Bool.and_eq_false_iff,
    Bool.not_eq_false', ← List.isPrefixOf_iff_prefix, ← List.isSuffixOf_iff_suffix, dunder, and_assoc]
  refine and_congr_left fun _ => ?_
  cases ['_', '_'].isPrefixOf name.toList <;> simp

section

variable {cls : List Char} {f : Field}

theorem toList_fieldLine (f : Field) : (fieldLine f).toList =
    ' ' :: ' ' :: ' ' :: ' ' ::
      (f.name.toList ++ ':' :: ' ' :: (Python.fieldAnnotation f.type f.required).toList) := by
  simp [fieldLine]

/-- The line of a field binds its name. -/
theorem annotatedKey?_fieldLine (h : isFieldName f.name = true) :
    annotatedKey? cls (fieldLine f) =
      if Text.normalForm f.name.toList = unbindable.toList then none
      else some ((mangled cls (Text.normalForm f.name.toList)).map Char.toNat) := by
  obtain ⟨-, hword, hreserved⟩ := isFieldName_eq_true_iff.1 h
  have hstop : ∀ c ∈ (':' :: ' ' :: (Python.fieldAnnotation f.type f.required).toList).head?,
      isNameChar c = false := by
    rintro c ⟨⟩
    decide
  have hchars := isNameChar_of_isIdentifierList hword
  rw [annotatedKey?, toList_fieldLine]
  simp only [Text.takeWhile_word hchars hstop, Text.dropWhile_word hchars hstop, boundName?, hword,
    String.ofList_toList, hreserved]
  by_cases hbound : Text.normalForm f.name.toList = unbindable.toList <;> simp [hbound]

theorem entryKey?_line (name annotation : String) :
    entryKey? ("        " ++ literal name ++ ": " ++ literal annotation ++ ",") =
      some (Target.python.denotation name) := by
  have hline : ("        " ++ literal name ++ ": " ++ literal annotation ++ ",").toList =
      ' ' :: ' ' :: ' ' :: ' ' :: ' ' :: ' ' :: ' ' :: ' ' ::
        ((literal name).toList ++ ':' :: ' ' :: ((literal annotation).toList ++ [','])) := by
    simp
  have hkey := (Target.denotes_literal .python name).reads
    (':' :: ' ' :: ((literal annotation).toList ++ [','])) (by simp)
  have hvalue := (Target.denotes_literal .python annotation).reads [','] (by simp)
  rw [entryKey?, hline]
  simp only [hkey, hvalue]

end

/-! ### The lines of records -/

theorem mapM_eq_map {α β : Type} {f : α → Option β} {g : α → β} {xs : List α}
    (h : ∀ x ∈ xs, f x = some (g x)) : xs.mapM f = some (xs.map g) := by
  induction xs with
  | nil => rfl
  | cons x xs ih =>
    obtain ⟨hx, hxs⟩ := List.forall_mem_cons.1 h
    rw [List.mapM_cons, hx, ih hxs]
    rfl

theorem mapM_eq_none {α β : Type} {f : α → Option β} {xs : List α} {x : α} (hx : x ∈ xs)
    (h : f x = none) : xs.mapM f = none := by
  induction xs with
  | nil => cases hx
  | cons y ys ih =>
    rw [List.mapM_cons]
    rcases List.mem_cons.1 hx with rfl | hx
    · rw [h]
      rfl
    · rw [ih hx]
      cases f y <;> rfl

section Records

variable {symbol : String} {docs : List String} {fields : List Field}

theorem isInside_indented (line : String) : isInside ("    " ++ line) = true := by
  simp [isInside]

theorem isComment_remark (line : String) :
    isComment (Emitter.remark line) = true ∧ isComment ("    " ++ Emitter.remark line) = true := by
  simp [isComment, Emitter.remark]

theorem isStatement_docstring (ls : List String) :
    isStatement ("    " ++ Emitter.docstring ls) = false := by
  have hquotes : ∃ rest, Emitter.docstring ls = "\"\"\"" ++ rest := by
    rw [Emitter.docstring, Emitter.docstringAt]
    split
    · exact ⟨"\"\"\"", rfl⟩
    · exact ⟨_, String.append_assoc ..⟩
    · simp only [String.append_assoc]
      exact ⟨_, rfl⟩
  obtain ⟨rest, hrest⟩ := hquotes
  rw [hrest]
  simp [isStatement]

/-- The line of a field is a statement in the body of its class. -/
theorem isStatement_fieldLine {f : Field} (h : isFieldName f.name = true) :
    isInside (fieldLine f) = true ∧ isStatement (fieldLine f) = true := by
  obtain ⟨-, hword, -⟩ := isFieldName_eq_true_iff.1 h
  have hchars := isNameChar_of_isIdentifierList hword
  cases hname : f.name.toList with
  | nil => rw [hname] at hword; cases hword
  | cons c rest =>
    have hc : isNameChar c = true := hchars c (by rw [hname]; exact List.mem_cons_self)
    have hne : c ≠ ' ' ∧ c ≠ '#' ∧ '"' ≠ c := by
      refine ⟨?_, ?_, ?_⟩ <;> rintro rfl <;> exact absurd hc (by decide)
    have hline := toList_fieldLine f
    rw [hname] at hline
    have hpass : fieldLine f ≠ "    pass" := by
      intro heq
      have hcolon : ':' ∈ (fieldLine f).toList := by simp [toList_fieldLine]
      rw [heq] at hcolon
      exact absurd hcolon (by decide)
    have hempty : (fieldLine f).isEmpty = false := by
      rw [Bool.eq_false_iff, Ne, String.isEmpty_iff]
      intro heq
      rw [heq] at hline
      cases hline
    refine ⟨by simp [isInside, hline], ?_⟩
    simp [isStatement, isComment, List.isPrefixOf, hline, hpass, hempty, hne]

theorem filter_classDocs (symbol : String) (docs : List String) (fields : List Field) :
    (∀ line ∈ (classHead symbol docs fields).tail, isInside line = true) ∧
      (classHead symbol docs fields).tail.filter isStatement = [] := by
  have hpass : isInside "    pass" = true ∧ isStatement "    pass" = false := by decide
  have hempty : isInside "" = true ∧ isStatement "" = false := by decide
  rw [classHead, List.tail_cons]
  split_ifs <;> simp [isInside_indented, isStatement_docstring, hpass, hempty]

/-- The lines of the fields, with the comments in front of each. -/
def fieldLines (fields : List Field) : List String :=
  fields.flatMap fun f =>
    (fieldDoc f.doc).map (fun line => "    " ++ Emitter.remark line) ++ [fieldLine f]

theorem filter_fieldLines (h : ∀ f ∈ fields, isFieldName f.name = true) :
    (∀ line ∈ fieldLines fields, isInside line = true) ∧
      (fieldLines fields).filter isStatement = fields.map fieldLine := by
  have hcomment : ∀ line, isStatement ("    " ++ Emitter.remark line) = false := by
    intro line
    simp [isStatement, (isComment_remark line).2]
  constructor
  · intro line hline
    obtain ⟨f, hf, hmem⟩ := List.mem_flatMap.1 hline
    rcases List.mem_append.1 hmem with hmem | hmem
    · obtain ⟨doc, -, rfl⟩ := List.mem_map.1 hmem
      exact isInside_indented _
    · rw [List.mem_singleton.1 hmem]
      exact (isStatement_fieldLine (h f hf)).1
  · rw [fieldLines, List.filter_flatMap, List.map_eq_flatMap]
    refine List.flatMap_congr fun f hf => ?_
    rw [List.filter_append, List.filter_eq_nil_iff.2, List.nil_append,
      List.filter_eq_self.2 (List.forall_mem_singleton.2 (isStatement_fieldLine (h f hf)).2)]
    rw [List.forall_mem_map]
    exact fun doc _ => by simp [hcomment doc]

/-- What a class declares are the names in the lines of its fields. -/
theorem declaredKeys?_class (hsymbol : Identifier.WellFormed symbol)
    (hfields : ∀ f ∈ fields, isFieldName f.name = true) :
    declaredKeys? (classHead symbol docs fields ++ fieldLines fields ++ Emitter.pythonLift symbol) =
      ((fields.map fieldLine).mapM (annotatedKey? symbol.toList)).map firstSeen := by
  obtain ⟨hinside, hdocs⟩ := filter_classDocs symbol docs fields
  obtain ⟨hlines, hstatements⟩ := filter_fieldLines hfields
  have hopen : ("class " ++ symbol ++ "(TypedDict):").toList =
      "class ".toList ++ (symbol.toList ++ "(TypedDict):".toList) := by
    simp
  have hstop : ∀ c ∈ ("(TypedDict):".toList).head?, isNameChar c = false := by
    simp [isNameChar, isLetterOrDigit]
  have hcls : (("class " ++ symbol ++ "(TypedDict):").toList.drop 6).takeWhile isNameChar =
      symbol.toList := by
    rw [hopen]
    exact Text.takeWhile_word (isNameChar_of_wellFormed hsymbol) hstop
  have hhead : isComment ("class " ++ symbol ++ "(TypedDict):") = false := by
    simp [isComment]
  have hbody : ((((classHead symbol docs fields).tail ++ fieldLines fields) ++
      Emitter.pythonLift symbol).takeWhile isInside).filter isStatement = fields.map fieldLine := by
    have hall : ∀ line ∈ (classHead symbol docs fields).tail ++ fieldLines fields,
        isInside line = true := List.forall_mem_append.2 ⟨hinside, hlines⟩
    have hlift : (Emitter.pythonLift symbol).takeWhile isInside = ["", ""] := by
      simp [Emitter.pythonLift, isInside]
    rw [List.takeWhile_append_of_pos hall, hlift, List.filter_append, List.filter_append, hdocs,
      hstatements]
    simp [isStatement]
  have hopens : "class ".toList.isPrefixOf ("class " ++ symbol ++ "(TypedDict):").toList = true := by
    rw [hopen]
    exact List.isPrefixOf_iff_prefix.2 (List.prefix_append _ _)
  have hcons : classHead symbol docs fields ++ fieldLines fields ++ Emitter.pythonLift symbol =
      ("class " ++ symbol ++ "(TypedDict):") ::
        ((classHead symbol docs fields).tail ++ fieldLines fields ++ Emitter.pythonLift symbol) := rfl
  rw [hcons, declaredKeys?, List.dropWhile_cons_of_neg (by simp [hhead])]
  dsimp only
  rw [if_pos hopens, hcls, hbody]

/-- The line that opens a call opens no class and is no comment. -/
theorem opens_call (hsymbol : Identifier.WellFormed symbol) :
    isComment (symbol ++ " = TypedDict(") = false ∧
      "class ".toList.isPrefixOf (symbol ++ " = TypedDict(").toList = false := by
  have hword := isNameChar_of_wellFormed hsymbol
  have hstop : ∀ c ∈ (" = TypedDict(".toList).head?, isNameChar c = false := by
    simp [isNameChar, isLetterOrDigit]
  constructor
  · obtain ⟨c, rest, hc⟩ := List.exists_cons_of_ne_nil hsymbol.nonempty
    have hne : c ≠ ' ' ∧ c ≠ '#' := by
      have hchar := hword c (by rw [hc]; exact List.mem_cons_self)
      refine ⟨?_, ?_⟩ <;> rintro rfl <;> exact absurd hchar (by decide)
    simp [isComment, hc, hne]
  · rw [Bool.eq_false_iff, Ne, List.isPrefixOf_iff_prefix, String.toList_append]
    rintro ⟨rest, hrest⟩
    have hclass : ("class ".toList ++ rest).takeWhile isNameChar = "class".toList := rfl
    rw [hrest, Text.takeWhile_word hword hstop] at hclass
    have hreserved := hsymbol.notReserved
    rw [String.toList_inj.1 hclass] at hreserved
    exact absurd hreserved (by decide)

/-- What a call declares are the texts in front of its annotations. -/
theorem declaredKeys?_call (hsymbol : Identifier.WellFormed symbol) :
    declaredKeys? (Emitter.pythonCall symbol docs fields ++ Emitter.pythonLift symbol) =
      some (firstSeen (fields.map fun f => Target.python.denotation f.name)) := by
  obtain ⟨hcomment, hclass⟩ := opens_call hsymbol
  have hentries : ∀ line ∈ fields.map fun f => "        " ++ literal f.name ++ ": " ++
      literal (Python.fieldAnnotation f.type f.required) ++ ",", (line != "    \x7d,") = true := by
    intro line hline
    obtain ⟨f, -, rfl⟩ := List.mem_map.1 hline
    rw [bne_iff_ne]
    intro heq
    simpa using congrArg String.toList heq
  have hremarks : ∀ line ∈ docs.map Emitter.remark, isComment line = true :=
    List.forall_mem_map.2 fun line _ => (isComment_remark line).1
  have hdrop : (Emitter.pythonCall symbol docs fields ++ Emitter.pythonLift symbol).dropWhile isComment =
      (symbol ++ " = TypedDict(") :: ("    " ++ literal symbol ++ ",") :: "    \x7b" ::
        ((fields.map fun f => "        " ++ literal f.name ++ ": " ++
          literal (Python.fieldAnnotation f.type f.required) ++ ",") ++
          "    \x7d," :: ")" :: Emitter.pythonLift symbol) := by
    simp only [Emitter.pythonCall, List.append_assoc]
    rw [List.dropWhile_append_of_pos hremarks, List.cons_append,
      List.dropWhile_cons_of_neg (by simp [hcomment])]
    rfl
  have hkeys : (fields.map fun f => "        " ++ literal f.name ++ ": " ++
      literal (Python.fieldAnnotation f.type f.required) ++ ",").mapM entryKey? =
        some (fields.map fun f => Target.python.denotation f.name) := by
    rw [List.mapM_map]
    refine mapM_eq_map fun f _ => ?_
    rw [Function.comp_apply, entryKey?_line]
  rw [declaredKeys?, hdrop]
  dsimp only
  rw [if_neg (Bool.eq_false_iff.1 hclass), List.drop_succ_cons, List.drop_succ_cons, List.drop_zero,
    List.takeWhile_append_of_pos hentries, List.takeWhile_cons_of_neg (by simp), List.append_nil, hkeys]
  rfl

/-- The keys of the names of a record, by the way in which it is declared. None come of a class that
would bind what nothing can be bound to. -/
def keysOf (symbol : String) (names : List String) : Option (List (List Nat)) :=
  if names.all isFieldName then
    if names.any fun name => Text.normalForm name.toList = unbindable.toList then none
    else some (firstSeen (names.map fun name =>
      (mangled symbol.toList (Text.normalForm name.toList)).map Char.toNat))
  else some (firstSeen (names.map Target.python.denotation))

/-- A record is a class exactly if its names can be declared by one. -/
theorem all_isFieldName {t : TypeExpr} (hr : t.isRecord = true) :
    ((fieldsOf t).map Field.name).all isFieldName = declaresClass t := by
  cases t with
  | record fields =>
    rw [fieldsOf, List.all_map, declaresClass]
    rfl
  | _ => cases hr

/-- The declaration of a record has the keys of its names. -/
theorem declaredKeys?_pythonDeclaration (hsymbol : Identifier.WellFormed symbol) {s : Synthesis}
    (hr : s.type.isRecord = true) :
    declaredKeys? (Emitter.pythonDeclaration symbol docs s) =
      keysOf symbol ((fieldsOf s.type).map Field.name) := by
  have hnames := all_isFieldName hr
  rw [keysOf, hnames]
  by_cases hclass : declaresClass s.type = true
  · have hfields : ∀ f ∈ fieldsOf s.type, isFieldName f.name = true := by
      rw [← hnames, List.all_map, List.all_eq_true] at hclass
      exact hclass
    rw [if_pos hclass, pythonDeclaration_class hclass]
    refine (declaredKeys?_class hsymbol hfields).trans ?_
    rw [List.mapM_map, List.any_map]
    split_ifs with hbound
    · obtain ⟨f, hf, hfb⟩ := List.any_eq_true.1 hbound
      have hnone : (annotatedKey? symbol.toList ∘ fieldLine) f = none := by
        rw [Function.comp_apply, annotatedKey?_fieldLine (hfields f hf), if_pos (by simpa using hfb)]
      rw [mapM_eq_none hf hnone]
      rfl
    · rw [List.map_map, mapM_eq_map fun f hf => ?_, Option.map_some]
      have hfb : ¬Text.normalForm f.name.toList = unbindable.toList := by
        have hnone := List.any_eq_false.1 (Bool.eq_false_iff.2 hbound) f hf
        simpa using hnone
      rw [Function.comp_apply, annotatedKey?_fieldLine (hfields f hf), if_neg hfb]
      rfl
  · have hcall : Emitter.pythonDeclaration symbol docs s =
        Emitter.pythonCall symbol docs (fieldsOf s.type) ++ Emitter.pythonLift symbol := by
      obtain ⟨t, deps⟩ := s
      cases t with
      | record fields => exact congrArg (· ++ Emitter.pythonLift symbol) (if_neg hclass)
      | _ => cases hr
    rw [if_neg hclass, hcall, declaredKeys?_call hsymbol, List.map_map]
    rfl

/-! ### Keys that are names -/

theorem ofNat_eq_underscore {n : Nat} (h : Char.ofNat n = '_') : n = 95 := by
  by_cases hvalid : n.isValidChar
  · rw [Char.ofNat, dif_pos hvalid] at h
    exact congrArg Char.toNat h
  · rw [Char.ofNat, dif_neg hvalid] at h
    exact absurd h (by decide)

/-- A name that the class would put in front of itself is another one in its normal form. -/
theorem normalForm_mangled_ne (hsymbol : Identifier.WellFormed symbol) {name : List Char}
    (h : isPrivate symbol.toList (Text.normalForm name) = true) :
    mangled symbol.toList (Text.normalForm name) ≠ name := by
  intro heq
  obtain ⟨hopens, -, hne⟩ := isPrivate_eq_true_iff.1 h
  obtain ⟨c, rest, hc⟩ := List.exists_cons_of_ne_nil hne
  have hunderscore : c ≠ '_' := by
    have hhead := head?_bareClass symbol.toList
    rw [hc] at hhead
    exact fun hcu => hhead (congrArg some hcu)
  have hascii : c.toNat < 128 := by
    have hmem : c ∈ bareClass symbol.toList := by rw [hc]; exact List.mem_cons_self
    exact Identifier.lt_of_isLetterOrDigit (hsymbol.chars c (List.dropWhile_subset _ hmem))
  rw [mangled_of_isPrivate h, hc, List.cons_append] at heq
  -- the name begins with an underscore and `c`, which the normal form leaves alone
  obtain ⟨d, tail, hd, hdc⟩ := Text.normalize_eq_cons hascii ((rest ++ Text.normalForm name).map Char.toNat)
  have hform : Text.normalForm name = '_' :: Char.ofNat d :: tail.map Char.ofNat := by
    rw [← heq, Text.normalForm, List.map_cons, List.map_cons,
      Text.normalize_cons_cons (by decide) hascii, hd]
    rfl
  rw [hform, dunder, List.cons_prefix_cons, List.cons_prefix_cons] at hopens
  have hnum := ofNat_eq_underscore hopens.2.1.symm
  rcases hdc with hdc | hdc
  · exact hunderscore (Char.toNat_inj.1 (hdc.symm.trans hnum))
  · omega

/-- The name of a field is bound as it is exactly if it is in the normal form. -/
theorem mangled_normalForm_eq_iff (hsymbol : Identifier.WellFormed symbol) {name : String}
    (h : isFieldName name = true) :
    mangled symbol.toList (Text.normalForm name.toList) = name.toList ↔
      Text.normalForm name.toList = name.toList := by
  constructor
  · intro heq
    cases hp : isPrivate symbol.toList (Text.normalForm name.toList) with
    | true => exact absurd heq (normalForm_mangled_ne hsymbol hp)
    | false => rwa [mangled_of_not_isPrivate hp] at heq
  · intro heq
    obtain ⟨hdunder, -, -⟩ := isFieldName_eq_true_iff.1 h
    have hp : isPrivate symbol.toList name.toList = false := by
      rw [Bool.eq_false_iff]
      intro hp
      obtain ⟨hopens, hsuffix, -⟩ := isPrivate_eq_true_iff.1 hp
      exact hsuffix (hdunder hopens)
    rw [heq, mangled_of_not_isPrivate hp]

theorem denotation_python (s : String) : Target.python.denotation s = s.toList.map Char.toNat :=
  List.map_eq_flatMap.symm

/-- The keys are the names unless a class has one that is not in the normal form or that nothing can be
bound to. -/
theorem keysOf_eq_some_iff (hsymbol : Identifier.WellFormed symbol) {names : List String}
    (hn : names.Nodup) : keysOf symbol names = some (names.map Target.python.denotation) ↔
      (names.all isFieldName = true →
        ∀ name ∈ names, Text.normalForm name.toList = name.toList ∧ name ≠ unbindable) := by
  have hdenotations : (names.map Target.python.denotation).Nodup :=
    List.Nodup.map (fun _ _ h => Target.denotation_inj h) hn
  rw [keysOf]
  by_cases hclass : names.all isFieldName = true
  · have hfields := List.all_eq_true.1 hclass
    rw [if_pos hclass]
    constructor
    · intro hkeys _ name hname
      split_ifs at hkeys with hbound
      have hsame : names.map (fun name =>
          (mangled symbol.toList (Text.normalForm name.toList)).map Char.toNat) =
            names.map Target.python.denotation := by
        have hseen := Option.some.inj hkeys
        rw [← hseen]
        refine ((firstSeen_sublist _).eq_of_length ?_).symm
        rw [hseen, List.length_map, List.length_map]
      have hkey := List.map_inj_left.1 hsame name hname
      rw [denotation_python] at hkey
      have hform := (mangled_normalForm_eq_iff hsymbol (hfields name hname)).1
        (List.map_injective_iff.2 (fun _ _ => Char.toNat_inj.1) hkey)
      refine ⟨hform, fun heq => ?_⟩
      have hnone := List.any_eq_false.1 (Bool.eq_false_iff.2 hbound) name hname
      rw [hform, heq] at hnone
      simp at hnone
    · intro h
      have hforms := h hclass
      have hbound : (names.any fun name => Text.normalForm name.toList = unbindable.toList) = false := by
        rw [List.any_eq_false]
        intro name hname
        obtain ⟨hform, hne⟩ := hforms name hname
        rw [hform, decide_eq_true_eq, String.toList_inj]
        exact hne
      have hsame : names.map (fun name =>
          (mangled symbol.toList (Text.normalForm name.toList)).map Char.toNat) =
            names.map Target.python.denotation := by
        refine List.map_congr_left fun name hname => ?_
        rw [(mangled_normalForm_eq_iff hsymbol (hfields name hname)).2 (hforms name hname).1,
          denotation_python]
      rw [if_neg (Bool.eq_false_iff.1 hbound), hsame, firstSeen_of_nodup hdenotations]
  · rw [if_neg hclass, firstSeen_of_nodup hdenotations]
    exact iff_of_true rfl fun hall => absurd hall hclass

end Records

end Python

/-- The names of the properties of a definition, in their order. -/
def Definition.propertyNames (d : Definition) : List String :=
  (d.properties.getD []).map Prod.fst

namespace Emitter

open Python (Line declaredKeys? keysOf isFieldName unbindable)

/-- The declaration of a record has the names of its properties for keys, in their order, if it is a call.
If it is a class, each name is brought to its normal form and mangled if that is private. The keys are the
names then exactly if each of these is its own normal form and none is the one that nothing can be bound
to. The comments between the names stay on their lines, unless a property of a class has a type or a format
with a line break. -/
theorem keys_of_record (doc : Document) (registry : Option Registry) (n : Name) (x : Definition)
    (s : Synthesis) (e : Emitter) (m : Module) (hs : Synthesis.ofSchema doc registry n x = .ok s)
    (hr : s.type.isRecord = true) (he : e.target = .python) (hm : e.declaration n x s = .ok m) :
    ∃ (head : List String) (lines : List Line),
      head = pythonHead e.header
        (Python.Typing.names (pythonTyping (!(e.importLines s.deps (some n)).isEmpty) s.type))
        (e.importLines s.deps (some n)) ∧
      m.source = unlines (head ++ lines.map Line.text) ∧
      declaredKeys? (lines.map Line.text) = keysOf m.name x.propertyNames ∧
      (x.propertyNames.Nodup →
        (declaredKeys? (lines.map Line.text) = some (x.propertyNames.map Target.python.denotation) ↔
          (x.propertyNames.all isFieldName = true → ∀ name ∈ x.propertyNames,
            Text.normalForm name.toList = name.toList ∧ name ≠ unbindable))) ∧
      ((∀ line ∈ lines, line.remark?.isSome → Unbroken line.text) ↔
        (x.propertyNames.all isFieldName = true →
          ∀ p ∈ x.properties.getD [], p.1 ≠ tagProperty → p.2.UnbrokenType)) := by
  obtain ⟨name, rfl⟩ : ∃ name, n = .text name := by
    cases n with
    | text name => exact ⟨name, rfl⟩
    | other v => cases hm
  obtain ⟨docs, hdocs, hsource⟩ := exists_docs_of_declaration hm
  have hname : m.name = Identifier.ofName name := (declares_of_declaration hm).name_eq
  have hsymbol : Identifier.WellFormed m.name := by
    rw [hname]
    exact Identifier.ofName_wellFormed name
  have hnames : (Python.fieldsOf s.type).map Field.name = x.propertyNames :=
    Synthesis.map_name_fieldsOf hs hr
  have hkeys : declaredKeys? ((Python.declarationLines m.name docs s).map Line.text) =
      keysOf m.name x.propertyNames := by
    rw [Python.map_text_declarationLines, Python.declaredKeys?_pythonDeclaration hsymbol hr, hnames]
  refine ⟨_, Python.declarationLines m.name docs s, rfl, ?_, hkeys, fun hnodup => ?_, ?_⟩
  · rw [hsource, Python.map_text_declarationLines, hname, declarationLines, he]
  · rw [hkeys, Python.keysOf_eq_some_iff hsymbol hnodup]
  · rw [Line.unbroken_remarks_iff, Python.filterMap_remark_declarationLines,
      unbroken_remarks_iff hs (Target.unbroken_declarationDoc hdocs), ← hnames,
      Python.all_isFieldName hr]

/-- An object with texts under these names. -/
def spelled (names : List String) : Definition :=
  { Definition.blank with
    properties := some (names.map fun name => (name, { Definition.blank with type := some "string" })) }

def spelledType (names : List String) : Synthesis :=
  ⟨.record (names.map fun name => .mk name (.primitive .string) false { jsonSchema := some "string" }), []⟩

theorem keys_of_record_spelled :
    ∃ (m : Module) (head : List String) (lines : List Line),
      pythonEmitter.declaration (.text "A") (spelled ["id", "größe"]) (spelledType ["id", "größe"]) =
        .ok m ∧
      m.source = unlines (head ++ lines.map Line.text) ∧
      declaredKeys? (lines.map Line.text) =
        some (["id", "größe"].map Target.python.denotation) := by
  obtain ⟨m, hm⟩ : ∃ m, pythonEmitter.declaration (.text "A") (spelled ["id", "größe"])
      (spelledType ["id", "größe"]) = .ok m := ⟨_, rfl⟩
  obtain ⟨head, lines, -, hsource, -, hkeys, -⟩ := keys_of_record ⟨[]⟩ none (.text "A")
    (spelled ["id", "größe"]) (spelledType ["id", "größe"]) pythonEmitter m rfl rfl rfl hm
  refine ⟨m, head, lines, hm, hsource, (hkeys (by decide)).2 fun _ => ?_⟩
  have hid : Text.normalForm "id".toList = "id".toList := Text.normalForm_ascii (by simp)
  exact List.forall_mem_cons.2 ⟨⟨hid, by decide⟩, List.forall_mem_singleton.2 (by decide +kernel)⟩

/-- A name with a ligature, and one that a wide underscore makes private. -/
def wide : List String :=
  ["\ufb01", "_\uff3fx"]

/-- The keys of a class are other ones than the names that are wide. -/
theorem keys_altered_wide :
    ∃ m, pythonEmitter.declaration (.text "A") (spelled wide) (spelledType wide) = .ok m ∧
      Synthesis.ofSchema ⟨[]⟩ none (.text "A") (spelled wide) = .ok (spelledType wide) ∧
      (∃ head, m.source = unlines (head ++ pythonDeclaration "A" [] (spelledType wide))) ∧
      declaredKeys? (pythonDeclaration "A" [] (spelledType wide)) =
        some (["fi", "_A__x"].map Target.python.denotation) := by
  have hsymbol : Identifier.WellFormed "A" := by
    have hwell := Identifier.ofName_wellFormed "A"
    rwa [show Identifier.ofName "A" = "A" by decide +kernel] at hwell
  refine ⟨_, rfl, rfl, ⟨pythonHead "Generated." ["NotRequired", "TypedDict"] [], ?_⟩, ?_⟩
  · decide +kernel
  · rw [Python.declaredKeys?_pythonDeclaration hsymbol (s := spelledType wide) rfl]
    decide +kernel

end Emitter

end SchemaDecl
