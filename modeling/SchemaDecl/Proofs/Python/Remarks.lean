import SchemaDecl.Proofs.Emission.Documentation
import SchemaDecl.Proofs.Synthesis.Documentation

/-! The comments of a module in Python. Every line of documentation outside a documentation string is put
behind a mark, and the other lines are those of the module without documentation. It stays behind the mark
unless it is broken, which only the type and the format of a property can make it. -/

namespace SchemaDecl

namespace Python

/-! ### Types without documentation -/

mutual

theorem typeText_withoutDocs : ∀ t : TypeExpr, typeText t.withoutDocs = typeText t
  | .reference n none => rfl
  | .reference n (some m) => rfl
  | .union ms => by
    rw [TypeExpr.withoutDocs, typeText, typeText, typeTexts_withoutDocs]
  | .sequence t => by
    rw [TypeExpr.withoutDocs, typeText, typeText, typeText_withoutDocs]
  | .record _ => rfl
  | .literals _ => rfl
  | .primitive _ => rfl

theorem typeTexts_withoutDocs :
    ∀ ms : List TypeExpr, typeTexts (TypeExpr.membersWithoutDocs ms) = typeTexts ms
  | [] => rfl
  | t :: rest => by
    rw [TypeExpr.membersWithoutDocs, typeTexts, typeTexts, typeText_withoutDocs,
      typeTexts_withoutDocs]

end

mutual

theorem typingUsed_withoutDocs : ∀ t : TypeExpr, typingUsed t.withoutDocs = typingUsed t
  | .reference n none => rfl
  | .reference n (some m) => rfl
  | .union ms => by
    rw [TypeExpr.withoutDocs, typingUsed, typingUsed, typingUsedAll_withoutDocs,
      typeTexts_withoutDocs]
  | .sequence t => by
    rw [TypeExpr.withoutDocs, typingUsed, typingUsed, typingUsed_withoutDocs]
  | .record _ => rfl
  | .literals _ => rfl
  | .primitive _ => rfl

theorem typingUsedAll_withoutDocs :
    ∀ ms : List TypeExpr, typingUsedAll (TypeExpr.membersWithoutDocs ms) = typingUsedAll ms
  | [] => rfl
  | t :: rest => by
    rw [TypeExpr.membersWithoutDocs, typingUsedAll, typingUsedAll, typingUsed_withoutDocs,
      typingUsedAll_withoutDocs]

end

theorem fieldAnnotation_withoutDocs (t : TypeExpr) (required : Bool) :
    fieldAnnotation t.withoutDocs required = fieldAnnotation t required := by
  rw [Python.fieldAnnotation, Python.fieldAnnotation, typeText_withoutDocs]

theorem pythonTyping_alias {hasImports : Bool} {t : TypeExpr} (hr : t.isRecord = false) :
    Emitter.pythonTyping hasImports t =
      (if hasImports then [.typeChecking] else []) ++ .typeAlias :: typingUsed t := by
  cases t with
  | record fields => cases hr
  | _ => rfl

theorem pythonTyping_withoutDocs (hasImports : Bool) (t : TypeExpr) :
    Emitter.pythonTyping hasImports t.withoutDocs = Emitter.pythonTyping hasImports t := by
  have hfield : ∀ f : Field, typingUsed f.withoutDocs.type ++
      (if f.withoutDocs.required then [] else [.notRequired]) =
        typingUsed f.type ++ if f.required then [] else [.notRequired] := by
    rintro ⟨n, t, r, d⟩
    exact congrArg (· ++ _) (typingUsed_withoutDocs t)
  cases hr : t.isRecord with
  | false =>
    rw [pythonTyping_alias hr, pythonTyping_alias ((TypeExpr.isRecord_withoutDocs t).trans hr),
      typingUsed_withoutDocs]
  | true =>
    cases t with
    | record fields =>
      rw [TypeExpr.withoutDocs, TypeExpr.fieldsWithoutDocs_eq_map, Emitter.pythonTyping,
        Emitter.pythonTyping, List.flatMap_map]
      simp only [hfield]
    | _ => cases hr

/-! ### Declarations -/

/-- Whether the declaration of a type is a class. -/
def declaresClass : TypeExpr → Bool
  | .record fields => fields.all fun f => isFieldName f.name
  | _ => false

/-- The fields of a record. -/
def fieldsOf : TypeExpr → List Field
  | .record fields => fields
  | _ => []

/-- The lines of a class in front of its fields. -/
def classHead (symbol : String) (docs : List String) (fields : List Field) : List String :=
  ("class " ++ symbol ++ "(TypedDict):") ::
    if docs.isEmpty then (if fields.isEmpty then ["    pass"] else [])
    else ("    " ++ Emitter.docstring docs) :: (if fields.isEmpty then [] else [""])

/-- The line of a class that declares a field. -/
def fieldLine (f : Field) : String :=
  "    " ++ f.name ++ ": " ++ fieldAnnotation f.type f.required

section Declarations

variable {symbol : String} {docs : List String} {s : Synthesis}

theorem declaresClass_withoutDocs (t : TypeExpr) : declaresClass t.withoutDocs = declaresClass t := by
  cases t with
  | record fields =>
    rw [TypeExpr.withoutDocs, TypeExpr.fieldsWithoutDocs_eq_map, declaresClass, declaresClass,
      List.all_map]
    refine congrArg (fields.all ·) (funext ?_)
    rintro ⟨n, t, r, d⟩
    rfl
  | _ => rfl

theorem fieldsOf_withoutDocs (t : TypeExpr) :
    fieldsOf t.withoutDocs = (fieldsOf t).map Field.withoutDocs := by
  cases t with
  | record fields => rw [TypeExpr.withoutDocs, TypeExpr.fieldsWithoutDocs_eq_map, fieldsOf, fieldsOf]
  | _ => rfl

theorem pythonDeclaration_class (h : declaresClass s.type = true) :
    Emitter.pythonDeclaration symbol docs s =
      classHead symbol docs (fieldsOf s.type) ++ ((fieldsOf s.type).flatMap fun f =>
        (fieldDoc f.doc).map (fun line => "    " ++ Emitter.remark line) ++ [fieldLine f]) ++
        Emitter.pythonLift symbol := by
  obtain ⟨t, deps⟩ := s
  cases t with
  | record fields => exact congrArg (· ++ Emitter.pythonLift symbol) (if_pos h)
  | _ => cases h

/-- Without documentation a class has its fields alone. -/
theorem pythonDeclaration_class_bare (h : declaresClass s.type = true) :
    Emitter.pythonDeclaration symbol docs s.bare =
      classHead symbol docs (fieldsOf s.type) ++ (fieldsOf s.type).map fieldLine ++
        Emitter.pythonLift symbol := by
  have hempty : ((fieldsOf s.type).map Field.withoutDocs).isEmpty = (fieldsOf s.type).isEmpty :=
    List.isEmpty_map
  have hfield : ∀ f : Field, (fieldDoc f.withoutDocs.doc).map (fun line => "    " ++ Emitter.remark line) ++
      [fieldLine f.withoutDocs] = [fieldLine f] := by
    rintro ⟨n, t, r, d⟩
    exact congrArg (fun a => ["    " ++ n ++ ": " ++ a]) (fieldAnnotation_withoutDocs t r)
  rw [pythonDeclaration_class ((declaresClass_withoutDocs s.type).trans h), Synthesis.bare,
    fieldsOf_withoutDocs, classHead, classHead, hempty, List.flatMap_map, List.map_eq_flatMap]
  simp only [hfield]

/-- Other declarations have their documentation in front, and none of their fields. -/
theorem pythonDeclaration_other (h : ¬declaresClass s.type = true) :
    Emitter.pythonDeclaration symbol docs s =
      docs.map Emitter.remark ++ Emitter.pythonDeclaration symbol [] s.bare := by
  have hfield : ∀ f : Field, "        " ++ literal f.withoutDocs.name ++ ": " ++
      literal (Python.fieldAnnotation f.withoutDocs.type f.withoutDocs.required) ++ "," =
        "        " ++ literal f.name ++ ": " ++ literal (Python.fieldAnnotation f.type f.required) ++ "," := by
    rintro ⟨n, t, r, d⟩
    exact congrArg (fun a => "        " ++ literal n ++ ": " ++ literal a ++ ",")
      (fieldAnnotation_withoutDocs t r)
  obtain ⟨t, deps⟩ := s
  cases hr : t.isRecord with
  | true =>
    cases t with
    | record fields =>
      have hcall : ∀ docs fs, ¬declaresClass (.record fs) = true →
          Emitter.pythonDeclaration symbol docs ⟨.record fs, deps⟩ =
            Emitter.pythonCall symbol docs fs ++ Emitter.pythonLift symbol := fun docs fs h =>
        congrArg (· ++ Emitter.pythonLift symbol) (if_neg h)
      have hbare : ¬declaresClass (.record (fields.map Field.withoutDocs)) = true := by
        rw [← TypeExpr.fieldsWithoutDocs_eq_map, ← TypeExpr.withoutDocs, declaresClass_withoutDocs]
        exact h
      rw [hcall docs fields h, Synthesis.bare, TypeExpr.withoutDocs, TypeExpr.fieldsWithoutDocs_eq_map,
        hcall [] _ hbare, Emitter.pythonCall, Emitter.pythonCall, List.map_map]
      simp only [Function.comp_def, hfield, List.append_assoc, List.map_nil, List.nil_append]
    | _ => cases hr
  | false =>
    have halias : ∀ docs (t : TypeExpr), t.isRecord = false →
        Emitter.pythonDeclaration symbol docs ⟨t, deps⟩ = docs.map Emitter.remark ++
          [symbol ++ ": TypeAlias = " ++ if deps.isEmpty then typeText t else literal (typeText t)] := by
      intro docs t hr
      cases t with
      | record fields => cases hr
      | _ => rfl
    rw [halias docs t hr, Synthesis.bare, halias [] _ ((TypeExpr.isRecord_withoutDocs t).trans hr),
      typeText_withoutDocs]
    rfl

end Declarations

/-! ### Comments and code -/

/-- A line of a module: a comment behind some blanks, or any other one. -/
inductive Line where
  | remark (indent : Nat) (s : String)
  | code (s : String)

namespace Line

def text : Line → String
  | .remark indent s => String.ofList (List.replicate indent ' ') ++ Emitter.remark s
  | .code s => s

def remark? : Line → Option String
  | .remark _ s => some s
  | .code _ => none

def code? : Line → Option String
  | .remark _ _ => none
  | .code s => some s

section

variable (indent : Nat) (ls : List String)

theorem map_text_code : (ls.map code).map text = ls := by
  rw [List.map_map]
  exact List.map_id ls

theorem map_text_remark : (ls.map (remark indent)).map text =
    ls.map fun line => String.ofList (List.replicate indent ' ') ++ Emitter.remark line := by
  rw [List.map_map]
  rfl

theorem filterMap_remark_code : (ls.map code).filterMap remark? = [] := by
  rw [List.filterMap_map]
  exact List.filterMap_none ls

theorem filterMap_remark_remark : (ls.map (remark indent)).filterMap remark? = ls := by
  rw [List.filterMap_map]
  exact List.filterMap_some

theorem filterMap_code_code : (ls.map code).filterMap code? = ls := by
  rw [List.filterMap_map]
  exact List.filterMap_some

theorem filterMap_code_remark : (ls.map (remark indent)).filterMap code? = [] := by
  rw [List.filterMap_map]
  exact List.filterMap_none ls

end

/-- The blanks and the mark of a comment have no line breaks of their own. -/
theorem unbroken_text_remark {indent : Nat} {s : String} :
    Unbroken (remark indent s).text ↔ Unbroken s := by
  have hpad : Unbroken (String.ofList (List.replicate indent ' ')) := by
    intro c hc
    rw [String.toList_ofList] at hc
    rw [List.eq_of_mem_replicate hc]
    decide
  have hmark : Unbroken "#:" := by simp [Unbroken]
  have hblank : Unbroken " " := by simp [Unbroken]
  rw [text, unbroken_append, and_iff_right hpad, Emitter.remark, unbroken_append,
    and_iff_right hmark]
  split
  next he =>
    rw [String.isEmpty_iff] at he
    rw [he]
  next => rw [unbroken_append, and_iff_right hblank]

/-- Comments fill one line each exactly if their texts do. -/
theorem unbroken_remarks_iff {lines : List Line} :
    (∀ line ∈ lines, line.remark?.isSome → Unbroken line.text) ↔
      ∀ s ∈ lines.filterMap remark?, Unbroken s :=
  forall_isSome_iff <| by
    rintro (⟨indent, t⟩ | t) s ⟨⟩
    exact unbroken_text_remark

end Line

open Line (remark? code?)

/-- The documentation of a declaration that is put in comments: that of its fields, if it is a class, and
else its own. -/
def remarks (docs : List String) (t : TypeExpr) : List String :=
  if declaresClass t then (fieldsOf t).flatMap fun f => fieldDoc f.doc else docs

/-- The documentation of a declaration that is put in a documentation string. -/
def classDocs (docs : List String) (t : TypeExpr) : List String :=
  if declaresClass t then docs else []

/-- The lines of a declaration, with the comments among them marked. -/
def declarationLines (symbol : String) (docs : List String) (s : Synthesis) : List Line :=
  if declaresClass s.type then
    (classHead symbol docs (fieldsOf s.type)).map .code ++
      ((fieldsOf s.type).flatMap fun f =>
        (fieldDoc f.doc).map (Line.remark 4) ++ [fieldLine f].map .code) ++
      (Emitter.pythonLift symbol).map .code
  else docs.map (Line.remark 0) ++ (Emitter.pythonDeclaration symbol [] s.bare).map .code

section Lines

variable (symbol : String) (docs : List String) (s : Synthesis)

theorem map_text_declarationLines :
    (declarationLines symbol docs s).map Line.text = Emitter.pythonDeclaration symbol docs s := by
  rw [declarationLines]
  split
  next h =>
    have hpad : String.ofList (List.replicate 4 ' ') = "    " := rfl
    rw [pythonDeclaration_class h]
    simp only [List.map_append, List.map_flatMap, Line.map_text_code, Line.map_text_remark, hpad]
  next h =>
    have hpad : ∀ s : String, String.ofList (List.replicate 0 ' ') ++ s = s := fun s =>
      String.empty_append
    rw [pythonDeclaration_other h, List.map_append, Line.map_text_code, Line.map_text_remark]
    simp only [hpad]

theorem filterMap_remark_declarationLines :
    (declarationLines symbol docs s).filterMap remark? = remarks docs s.type := by
  rw [declarationLines, remarks]
  split
  · simp only [List.filterMap_append, List.filterMap_flatMap, Line.filterMap_remark_code,
      Line.filterMap_remark_remark, List.nil_append, List.append_nil]
  · rw [List.filterMap_append, Line.filterMap_remark_code, Line.filterMap_remark_remark,
      List.append_nil]

theorem filterMap_code_declarationLines :
    (declarationLines symbol docs s).filterMap code? =
      Emitter.pythonDeclaration symbol (classDocs docs s.type) s.bare := by
  rw [declarationLines, classDocs]
  split
  next h =>
    rw [pythonDeclaration_class_bare h, List.map_eq_flatMap (f := fieldLine)]
    simp only [List.filterMap_append, List.filterMap_flatMap, Line.filterMap_code_code,
      Line.filterMap_code_remark, List.nil_append]
  next h =>
    rw [List.filterMap_append, Line.filterMap_code_code, Line.filterMap_code_remark,
      List.nil_append]

end Lines

/-! ### Broken documentation -/

end Python

/-- Whether what is shown of a definition as it is has no line break: its type, and with it the format. -/
def Definition.UnbrokenType (d : Definition) : Prop :=
  ∀ type ∈ d.type, type ≠ "" → Unbroken type ∧ ∀ format ∈ d.notes.format, Unbroken format

theorem unbroken_shownType_iff {d : Definition} :
    (∀ t ∈ FieldDoc.shownType d, Unbroken t) ↔ d.UnbrokenType := by
  rw [FieldDoc.shownType, Definition.UnbrokenType]
  cases d.type with
  | none => simp [nonempty]
  | some type =>
    by_cases htype : type = ""
    · simp [nonempty, htype]
    · have hempty : Unbroken "" := by simp [Unbroken]
      have hopening : Unbroken " (" := by simp [Unbroken]
      have hclosing : Unbroken ")" := by simp [Unbroken]
      rw [nonempty_some htype]
      cases d.notes.format with
      | none => simp [nonempty, htype]
      | some format =>
        by_cases hformat : format = ""
        · have hnone : nonempty (some "") = none := rfl
          rw [hformat, hnone]
          simp [htype, hempty]
        · rw [nonempty_some hformat]
          simp [unbroken_append, hopening, hclosing, htype]

namespace Python

/-- The documentation of a property is in lines exactly if its type and its format have no line break. -/
theorem unbroken_fieldDoc_iff {name : String} {d : Definition} {fd : FieldDoc}
    (h : FieldDoc.ofDefinition name d = .ok fd) :
    (∀ l ∈ fieldDoc fd, Unbroken l) ↔ (name ≠ tagProperty → d.UnbrokenType) := by
  have hlines : ∀ l ∈ linesOf fd.description, Unbroken l := fun l hl => unbroken_of_mem_lines hl
  have hdeprecated :
      ∀ l ∈ (if fd.deprecated then ["Deprecated: " ++ deprecationNote] else []), Unbroken l := by
    split <;> simp [Unbroken, deprecationNote]
  rw [fieldDoc, List.forall_mem_append, List.forall_mem_append, List.forall_mem_append,
    and_iff_right hlines, and_iff_right hdeprecated]
  by_cases hname : name = tagProperty
  · subst hname
    obtain ⟨-, htype, hsample⟩ := FieldDoc.ofDefinition_tag h
    rw [htype, hsample]
    simp [labelled]
  · obtain ⟨-, htype, hsample⟩ := FieldDoc.ofDefinition_eq_ok hname h
    have hlabelled : (∀ l ∈ labelled "JSON-schema: " fd.jsonSchema, Unbroken l) ↔ d.UnbrokenType := by
      have hlabel : Unbroken "JSON-schema: " := by simp [Unbroken]
      rw [← unbroken_shownType_iff, htype]
      cases FieldDoc.shownType d with
      | none => simp [labelled]
      | some t =>
        rw [labelled]
        split
        next ht => simp [beq_iff_eq.1 ht, Unbroken]
        next => simp [unbroken_append, hlabel]
    rw [hlabelled]
    refine (and_iff_left ?_).trans (imp_iff_right hname).symm
    cases hs : fd.sample with
    | none => exact List.forall_mem_nil _
    | some t =>
      have hlabel : Unbroken "Example: " := by simp [Unbroken]
      exact List.forall_mem_singleton.2
        (unbroken_append.2 ⟨hlabel, unbroken_of_noControls (hsample.noControls t hs)⟩)

end Python

namespace Synthesis

variable {doc : Document} {registry : Option Registry} {n : Name} {x : Definition} {s : Synthesis}

/-- Each field of an object comes of its property by one of the rules. -/
theorem field_rules (hs : ofSchema doc registry n x = .ok s) (hr : s.type.isRecord = true) :
    List.Forall₂ (fun p f => ∃ deps, FieldRule doc registry n x.required (fun _ _ _ => True) p (f, deps))
      (x.properties.getD []) (Python.fieldsOf s.type) := by
  rw [isRecord_of_ofSchema hs] at hr
  rw [ofSchema, if_pos hr] at hs
  obtain ⟨fs, hfs, hs⟩ := bind_eq_ok hs
  cases hs
  have hrules := forall₂_of_ofProperties (P := fun _ _ _ => True) (fun _ _ _ _ => trivial) hfs
  rw [ofFields, Python.fieldsOf, List.forall₂_map_right_iff]
  exact hrules.imp fun p f hf => ⟨f.2, hf⟩

/-- Each field of an object has the documentation of its property. -/
theorem documented_fields (hs : ofSchema doc registry n x = .ok s) (hr : s.type.isRecord = true) :
    List.Forall₂ (fun p f => FieldDoc.ofDefinition p.1 p.2 = .ok f.doc) (x.properties.getD [])
      (Python.fieldsOf s.type) := by
  refine (field_rules hs hr).imp fun p f hf => ?_
  obtain ⟨deps, hf⟩ := hf
  cases hf with
  | member hm hd => exact mapError_eq_ok.1 hd
  | plain hp hs h hd => exact mapError_eq_ok.1 hd

/-- The fields of an object have the names of its properties. -/
theorem map_name_fieldsOf (hs : ofSchema doc registry n x = .ok s) (hr : s.type.isRecord = true) :
    (Python.fieldsOf s.type).map Field.name = (x.properties.getD []).map Prod.fst := by
  have hnames : List.Forall₂ (fun p f => f.name = p.1) (x.properties.getD [])
      (Python.fieldsOf s.type) := by
    refine (field_rules hs hr).imp fun p f hf => ?_
    obtain ⟨deps, hf⟩ := hf
    cases hf <;> rfl
  generalize x.properties.getD [] = ps, Python.fieldsOf s.type = fs at hnames ⊢
  induction hnames with
  | nil => rfl
  | cons hf _ ih => rw [List.map_cons, List.map_cons, ih, hf]

end Synthesis

namespace Emitter

open Python (Line declaresClass fieldsOf remarks classDocs)

theorem forall_iff_of_forall₂ {α β : Type} {r : α → β → Prop} {as : List α} {bs : List β}
    (hr : List.Forall₂ r as bs) {p : α → Prop} {q : β → Prop} (h : ∀ a b, r a b → (p a ↔ q b)) :
    (∀ a ∈ as, p a) ↔ ∀ b ∈ bs, q b := by
  induction hr with
  | nil => simp
  | cons hab _ ih => rw [List.forall_mem_cons, List.forall_mem_cons, h _ _ hab, ih]

/-- The lines of a module in Python, with the comments among them marked. -/
def moduleLines (e : Emitter) (symbol : String) (imports docs : List String) (s : Synthesis) :
    List Line :=
  (pythonHead e.header (Python.Typing.names (pythonTyping (!imports.isEmpty) s.type)) imports).map
    .code ++ Python.declarationLines symbol docs s

section Modules

variable {e : Emitter} (he : e.target = .python) (symbol : String) (imports docs : List String)
  (s : Synthesis)

include he

theorem map_text_moduleLines : (e.moduleLines symbol imports docs s).map Line.text =
    e.declarationLines symbol imports docs s := by
  rw [moduleLines, List.map_append, Line.map_text_code, Python.map_text_declarationLines,
    declarationLines, he]

theorem filterMap_code_moduleLines : (e.moduleLines symbol imports docs s).filterMap Line.code? =
    e.declarationLines symbol imports (classDocs docs s.type) s.bare := by
  rw [moduleLines, List.filterMap_append, Line.filterMap_code_code,
    Python.filterMap_code_declarationLines, declarationLines, he, Synthesis.bare,
    Python.pythonTyping_withoutDocs]

end Modules

theorem filterMap_remark_moduleLines (e : Emitter) (symbol : String) (imports docs : List String)
    (s : Synthesis) : (e.moduleLines symbol imports docs s).filterMap Line.remark? =
      remarks docs s.type := by
  rw [moduleLines, List.filterMap_append, Line.filterMap_remark_code,
    Python.filterMap_remark_declarationLines, List.nil_append]

theorem isRecord_of_declaresClass {t : TypeExpr} (h : declaresClass t = true) : t.isRecord = true := by
  cases t with
  | record fields => rfl
  | _ => cases h

/-- The comments of a module are in lines unless it is a class with a property whose type or format is
broken. -/
theorem unbroken_remarks_iff {doc : Document} {registry : Option Registry} {n : Name} {x : Definition}
    {s : Synthesis} (hs : Synthesis.ofSchema doc registry n x = .ok s) {docs : List String}
    (hdocs : ∀ l ∈ docs, Unbroken l) :
    (∀ l ∈ remarks docs s.type, Unbroken l) ↔
      (declaresClass s.type → ∀ p ∈ x.properties.getD [], p.1 ≠ tagProperty → p.2.UnbrokenType) := by
  rw [remarks]
  split
  next h =>
    have hdocumented := Synthesis.documented_fields hs (isRecord_of_declaresClass h)
    have hfields : (∀ p ∈ x.properties.getD [], p.1 ≠ tagProperty → p.2.UnbrokenType) ↔
        ∀ f ∈ fieldsOf s.type, ∀ l ∈ Python.fieldDoc f.doc, Unbroken l :=
      forall_iff_of_forall₂ hdocumented fun p f hf => (Python.unbroken_fieldDoc_iff hf).symm
    rw [List.forall_mem_flatMap, ← hfields]
    exact (imp_iff_right h).symm
  next h => exact iff_of_true hdocs fun hclass => absurd hclass h

/-- What is documented fills lines of comments, which is all that it adds to a module in Python beside
the documentation string of a class. The lines are unbroken, except that a property of a class whose type
or format has a line break continues outside the comment. -/
theorem remarks_in_lines (doc : Document) (registry : Option Registry) (n : Name) (x : Definition)
    (s : Synthesis) (e : Emitter) (m : Module) (hs : Synthesis.ofSchema doc registry n x = .ok s)
    (he : e.target = .python) (hm : e.declaration n x s = .ok m) :
    (∀ (name : String) (d : Definition) (fd : FieldDoc), FieldDoc.ofDefinition name d = .ok fd →
      ((∀ l ∈ Python.fieldDoc fd, Unbroken l) ↔ (name ≠ tagProperty → d.UnbrokenType))) ∧
    (∀ (t : Target) (description : Option String) (sample : Value) (docs : List String),
      t.declarationDoc description sample = .ok docs → ∀ l ∈ docs, Unbroken l) ∧
    ∃ (docs : List String) (lines : List Line),
      e.target.declarationDoc x.notes.description x.notes.sample = .ok docs ∧
      m.source = unlines (lines.map Line.text) ∧
      lines.filterMap Line.remark? = remarks docs s.type ∧
      lines.filterMap Line.code? = e.declarationLines m.name (e.importLines s.deps (some n))
        (classDocs docs s.type) s.bare ∧
      ((∀ line ∈ lines, line.remark?.isSome → Unbroken line.text) ↔
        (declaresClass s.type →
          ∀ p ∈ x.properties.getD [], p.1 ≠ tagProperty → p.2.UnbrokenType)) := by
  obtain ⟨name, rfl⟩ : ∃ name, n = .text name := by
    cases n with
    | text name => exact ⟨name, rfl⟩
    | other v => cases hm
  obtain ⟨docs, hdocs, hsource⟩ := exists_docs_of_declaration hm
  have hname : m.name = Identifier.ofName name := (declares_of_declaration hm).name_eq
  refine ⟨fun name d fd h => Python.unbroken_fieldDoc_iff h,
    fun t description sample docs h => Target.unbroken_declarationDoc h, docs,
    e.moduleLines m.name (e.importLines s.deps (some (.text name))) docs s, hdocs, ?_, ?_, ?_, ?_⟩
  · rw [map_text_moduleLines he, hname, hsource]
  · exact filterMap_remark_moduleLines e _ _ _ _
  · exact filterMap_code_moduleLines he _ _ _ _
  · rw [Line.unbroken_remarks_iff, filterMap_remark_moduleLines]
    exact unbroken_remarks_iff hs (Target.unbroken_declarationDoc hdocs)

/-- A text with a format. -/
def formatted (format : String) : Definition :=
  { ref := none, oneOf := none, type := some "string", enum := none, items := none, properties := none,
    required := [],
    notes := { description := none, sample := .null, format := some format, fallback := .null } }

/-- An object with such a text. -/
def letter (format : String) : Definition :=
  { formatted format with type := none, properties := some [("text", formatted format)] }

def letterType (format : String) : Synthesis :=
  ⟨.record [.mk "text" (.primitive .string) false { jsonSchema := some ("string (" ++ format ++ ")") }],
    []⟩

theorem remarks_in_lines_letter :
    Synthesis.ofSchema ⟨[]⟩ none (.text "Letter") (letter "email") = .ok (letterType "email") ∧
      ∃ (m : Module) (lines : List Line),
        pythonEmitter.declaration (.text "Letter") (letter "email") (letterType "email") = .ok m ∧
        m.source = unlines (lines.map Line.text) ∧
        lines.filterMap Line.remark? = ["JSON-schema: string (email)"] ∧
        ∀ line ∈ lines, line.remark?.isSome → Unbroken line.text := by
  have hs : Synthesis.ofSchema ⟨[]⟩ none (.text "Letter") (letter "email") =
      .ok (letterType "email") := rfl
  obtain ⟨m, hm⟩ : ∃ m, pythonEmitter.declaration (.text "Letter") (letter "email")
      (letterType "email") = .ok m := ⟨_, rfl⟩
  obtain ⟨-, -, docs, lines, -, hsource, hremarks, -, hunbroken⟩ :=
    remarks_in_lines _ _ _ _ _ _ m hs rfl hm
  refine ⟨hs, m, lines, hm, hsource, ?_, hunbroken.2 fun _ => ?_⟩
  · have hclass : declaresClass (letterType "email").type = true := by decide +kernel
    rw [hremarks, remarks, if_pos hclass]
    rfl
  · rintro p hp -
    obtain rfl : p = ("text", formatted "email") := List.mem_singleton.1 hp
    rintro type ⟨⟩ -
    refine ⟨by simp [Unbroken], ?_⟩
    rintro format ⟨⟩
    simp [Unbroken]

/-- A format with a line break continues outside the comment. -/
theorem remark_broken_letter :
    ∃ m, pythonEmitter.declaration (.text "Letter") (letter "x\nimport os")
        (letterType "x\nimport os") = .ok m ∧
      Synthesis.ofSchema ⟨[]⟩ none (.text "Letter") (letter "x\nimport os") =
        .ok (letterType "x\nimport os") ∧
      m.source = unlines ["\"\"\"Generated.\"\"\"", "", "from __future__ import annotations", "",
        "from typing import NotRequired, TypedDict", "", "", "class Letter(TypedDict):",
        "    #: JSON-schema: string (x", "import os)", "    text: NotRequired[str]", "", "",
        "def lift_Letter(original: Letter) -> Letter:",
        "    \"\"\"Lift a wire object into the domain type; the seam for derived fields.\"\"\"",
        "    return original"] := by
  refine ⟨_, rfl, rfl, ?_⟩
  decide +kernel

end Emitter

end SchemaDecl
