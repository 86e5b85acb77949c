import SchemaDecl.Proofs.Emission.Imports
import SchemaDecl.Proofs.Python.Needs
import SchemaDecl.Proofs.Target.Literal
import SchemaDecl.Proofs.TypeScript.Comments

/-! The strings in generated text. Whoever reads the text of a type from its beginning, literal by literal
and past its comments, finds the texts that the type holds and no others. So it is in an annotation
that is put between quotes as a whole: the annotation is the string of its literal, and the literals in
it are read as before. -/

namespace SchemaDecl

namespace Target

/-! ### Literals in a text -/

/-- The strings of the literals in a text, from left to right, where so many characters belong to a part
that was read. Only TypeScript has comments between types. -/
def stringsIn (t : Target) : Nat → List Char → Option (List (List Nat))
  | _, [] => some []
  | n + 1, _ :: cs => stringsIn t n cs
  | 0, c :: cs =>
    if c = '"' then
      (t.readLiteral (c :: cs)).bind fun p =>
        (stringsIn t (cs.length - p.2.length) cs).map (p.1 :: ·)
    else if t = .typescript ∧ c = '/' ∧ cs.head? = some '*' then
      (TypeScript.behindMark cs.tail).bind fun rest => stringsIn t (cs.length - rest.length) cs
    else stringsIn t 0 cs

example : Target.typescript.stringsIn 0 "A | \"/*\" /* \"b\" */ | \"\\\"\"".toList =
    some [[47, 42], [34]] := by
  decide +kernel

/-- The text holds literals of these strings wherever it stands, unless a quote follows. -/
def Strings (t : Target) (text : List Char) (us : List (List Nat)) : Prop :=
  ∀ rest, rest.head? ≠ some '"' → t.stringsIn 0 (text ++ rest) = (t.stringsIn 0 rest).map (us ++ ·)

section Strings

variable {t : Target} {a b : List Char} {us vs : List (List Nat)}

theorem Strings.stringsIn_eq (h : t.Strings a us) : t.stringsIn 0 a = some us := by
  have hend := h [] (by decide)
  rwa [List.append_nil, stringsIn, Option.map_some, List.append_nil] at hend

theorem stringsIn_length_append (cs rest : List Char) :
    t.stringsIn cs.length (cs ++ rest) = t.stringsIn 0 rest := by
  induction cs with
  | nil => rfl
  | cons c cs ih =>
    rw [List.length_cons, List.cons_append, stringsIn, ih]

/-- A part that is read as a whole. -/
theorem stringsIn_skip {cs part rest : List Char} (h : cs = part ++ rest) :
    t.stringsIn (cs.length - rest.length) cs = t.stringsIn 0 rest := by
  rw [h, List.length_append, Nat.add_sub_cancel, stringsIn_length_append]

/-- Characters that begin neither a literal nor a comment. -/
def IsPlain (cs : List Char) : Prop :=
  ∀ c ∈ cs, c ≠ '"' ∧ c ≠ '/'

instance (cs : List Char) : Decidable (IsPlain cs) :=
  decidable_of_iff (cs.all fun c => c != '"' && c != '/') (by simp [IsPlain])

theorem IsPlain.append (ha : IsPlain a) (hb : IsPlain b) : IsPlain (a ++ b) :=
  List.forall_mem_append.2 ⟨ha, hb⟩

/-- There is no literal in the text, wherever it stands. -/
def Skipped (t : Target) (cs : List Char) : Prop :=
  ∀ rest, t.stringsIn 0 (cs ++ rest) = t.stringsIn 0 rest

theorem IsPlain.skipped (h : IsPlain a) : t.Skipped a := by
  intro rest
  induction a with
  | nil => rfl
  | cons c cs ih =>
    obtain ⟨⟨hq, hs⟩, hcs⟩ := List.forall_mem_cons.1 h
    rw [List.cons_append, stringsIn, if_neg hq, if_neg fun h => hs h.2.1, ih hcs]

theorem Skipped.strings (h : t.Skipped a) : t.Strings a [] := by
  intro rest _
  rw [h]
  simp

/-- Texts one after another, where the second does not begin with a quote. -/
theorem Strings.append (ha : t.Strings a us) (hb : t.Strings b vs) (h : b.head? ≠ some '"') :
    t.Strings (a ++ b) (us ++ vs) := by
  intro rest hrest
  have hnext : (b ++ rest).head? ≠ some '"' := by
    cases b with
    | nil => exact hrest
    | cons c b => exact h
  rw [List.append_assoc, ha _ hnext, hb _ hrest, Option.map_map]
  congr 1
  funext ws
  exact (List.append_assoc us vs ws).symm

theorem strings_literal (v : String) : t.Strings (literal v).toList [t.denotation v] := by
  intro rest hrest
  obtain ⟨body, htext, -⟩ := (t.denotes_literal v).exists_body
  have hread := (t.denotes_literal v).reads rest hrest
  rw [htext, List.cons_append] at hread ⊢
  rw [stringsIn, if_pos rfl, hread, Option.bind_some, stringsIn_skip rfl]
  rfl

end Strings

/-! ### Texts with the literals of some values -/

/-- The literals in a text are those of these values, whatever their order. -/
def Holds (t : Target) (text : String) (values : List String) : Prop :=
  ∃ us, t.stringsIn 0 text.toList = some us ∧ ∀ u, u ∈ us ↔ ∃ v ∈ values, u = t.denotation v

/-- So it is wherever the text stands. -/
def Shows (t : Target) (text : String) (values : List String) : Prop :=
  ∃ us, t.Strings text.toList us ∧ ∀ u, u ∈ us ↔ ∃ v ∈ values, u = t.denotation v

section Shows

variable {t : Target} {a b : String} {vs ws : List String}

theorem Shows.holds (h : t.Shows a vs) : t.Holds a vs := by
  obtain ⟨us, hus, hmem⟩ := h
  exact ⟨us, hus.stringsIn_eq, hmem⟩

theorem shows_plain (h : IsPlain a.toList) : t.Shows a [] :=
  ⟨[], h.skipped.strings, by simp⟩

theorem shows_literal (v : String) : t.Shows (literal v) [v] :=
  ⟨_, strings_literal v, by simp⟩

theorem Shows.append (ha : t.Shows a vs) (hb : t.Shows b ws) (h : b.toList.head? ≠ some '"') :
    t.Shows (a ++ b) (vs ++ ws) := by
  obtain ⟨us, hus, hmem⟩ := ha
  obtain ⟨us', hus', hmem'⟩ := hb
  refine ⟨us ++ us', ?_, fun u => ?_⟩
  · rw [String.toList_append]
    exact hus.append hus' h
  · simp only [List.mem_append, hmem, hmem', or_and_right, exists_or]

/-- A text behind one without literals. -/
theorem Shows.behind (hb : t.Shows b vs) (ha : t.Skipped a.toList) : t.Shows (a ++ b) vs := by
  obtain ⟨us, hus, hmem⟩ := hb
  refine ⟨us, fun rest hrest => ?_, hmem⟩
  rw [String.toList_append, List.append_assoc, ha, hus rest hrest]

/-- A text in front of one without literals. -/
theorem Shows.before (ha : t.Shows a vs) (hb : IsPlain b.toList) : t.Shows (a ++ b) vs := by
  have hhead : b.toList.head? ≠ some '"' := fun h => (hb _ (List.mem_of_head? h)).1 rfl
  simpa using ha.append (shows_plain hb) hhead

theorem strings_intercalate {sep : String} (hsep : IsPlain sep.toList) (hne : sep ≠ "")
    {texts : List String} {f : String → List (List Nat)}
    (h : ∀ text ∈ texts, t.Strings text.toList (f text)) :
    t.Strings (sep.intercalate texts).toList (texts.flatMap f) := by
  induction texts with
  | nil => exact Skipped.strings fun rest => rfl
  | cons text texts ih =>
    obtain ⟨htext, htexts⟩ := List.forall_mem_cons.1 h
    cases texts with
    | nil => simpa using htext
    | cons next texts =>
      intro rest hrest
      obtain ⟨c, cs, hc⟩ := List.exists_cons_of_ne_nil (mt String.toList_eq_nil_iff.1 hne)
      have hnext : (sep.toList ++ ((sep.intercalate (next :: texts)).toList ++ rest)).head? ≠
          some '"' := by
        rw [hc] at hsep ⊢
        simpa using (hsep c List.mem_cons_self).1
      rw [String.intercalate_cons_cons, String.toList_append, String.toList_append, List.append_assoc,
        List.append_assoc, htext _ hnext, hsep.skipped, ih htexts rest hrest, Option.map_map,
        List.flatMap_cons]
      congr 1
      funext ws
      exact (List.append_assoc _ _ ws).symm

/-- Texts between separators hold what they hold each, and one of those that are the same is enough. -/
theorem shows_intercalate {α : Type} {sep : String} (hsep : IsPlain sep.toList) (hne : sep ≠ "")
    {xs : List α} {f : α → String} {values : α → List String} {texts : List String}
    (htexts : ∀ text, text ∈ texts ↔ ∃ x ∈ xs, f x = text) (h : ∀ x ∈ xs, t.Shows (f x) (values x)) :
    t.Shows (sep.intercalate texts) (xs.flatMap values) := by
  have hx : ∀ x ∈ xs, t.Strings (f x).toList ((t.stringsIn 0 (f x).toList).getD []) ∧
      ∀ u, u ∈ (t.stringsIn 0 (f x).toList).getD [] ↔ ∃ v ∈ values x, u = t.denotation v := by
    intro x hx
    obtain ⟨us, hus, hmem⟩ := h x hx
    rw [hus.stringsIn_eq]
    exact ⟨hus, hmem⟩
  refine ⟨_, strings_intercalate (f := fun text => (t.stringsIn 0 text.toList).getD []) hsep hne ?_,
    fun u => ?_⟩
  · intro text htext
    obtain ⟨x, hmem, rfl⟩ := (htexts text).1 htext
    exact (hx x hmem).1
  · simp only [List.mem_flatMap, htexts]
    constructor
    · rintro ⟨_, ⟨x, hmem, rfl⟩, hu⟩
      obtain ⟨v, hv, rfl⟩ := ((hx x hmem).2 u).1 hu
      exact ⟨v, ⟨x, hmem, hv⟩, rfl⟩
    · rintro ⟨v, ⟨x, hmem, hv⟩, rfl⟩
      exact ⟨_, ⟨x, hmem, rfl⟩, ((hx x hmem).2 _).2 ⟨v, hv, rfl⟩⟩

/-- Texts with an end of line behind each. -/
theorem shows_lines {α : Type} {xs : List α} {f : α → String} {values : α → List String}
    (h : ∀ x ∈ xs, t.Shows (f x) (values x)) :
    t.Shows (String.join (xs.map fun x => f x ++ "\n")) (xs.flatMap values) := by
  induction xs with
  | nil => exact shows_plain nofun
  | cons x xs ih =>
    obtain ⟨hx, hxs⟩ := List.forall_mem_cons.1 h
    have hnext := (ih hxs).behind (a := "\n") (IsPlain.skipped (by decide))
    rw [List.map_cons, String.join_cons, List.flatMap_cons, String.append_assoc]
    exact hx.append hnext (by simp)

end Shows

/-! ### What a text holds of a type -/

/-- What the text of a type shows of it beside the words of the language. -/
inductive Inscription where
  | name (n : String) (member : Option String)
  | text (v : String)
  /-- A line of documentation. -/
  | remark (line : String)

/-- Members of enumerations are words, and documentation does not end its comment. -/
def Inscription.Sound : Inscription → Prop
  | .name _ member => ∀ m ∈ member, Text.isIdentifier m
  | .text _ => True
  | .remark line => ¬TypeScript.closing <:+: line.toList

mutual

/-- The inscriptions of a type. Python has no types for the records in others. -/
def inscriptions (t : Target) : TypeExpr → List Inscription
  | .reference n m => [.name n m]
  | .union ms => memberInscriptions t ms
  | .sequence x => inscriptions t x
  | .record fs =>
    match t with
    | .python => []
    | .typescript => fieldInscriptions t fs
  | .literals vs => vs.map .text
  | .primitive _ => []

def memberInscriptions (t : Target) : List TypeExpr → List Inscription
  | [] => []
  | x :: rest => inscriptions t x ++ memberInscriptions t rest

def fieldInscriptions (t : Target) : List Field → List Inscription
  | [] => []
  | .mk name x _ doc :: rest =>
    (TypeScript.fieldDoc doc).map .remark ++ (if Text.isIdentifier name then [] else [.text name]) ++
      inscriptions t x ++ fieldInscriptions t rest

end

/-- The texts that a type holds. -/
def textsIn (xs : List Inscription) : List String :=
  xs.filterMap fun
    | .text v => some v
    | _ => none

theorem textsIn_append (xs ys : List Inscription) : textsIn (xs ++ ys) = textsIn xs ++ textsIn ys :=
  List.filterMap_append

/-- The texts of a type that show in a language. -/
def values (t : Target) (x : TypeExpr) : List String :=
  textsIn (t.inscriptions x)

section Inscriptions

variable {t : Target}

theorem inscriptions_union (ms : List TypeExpr) :
    t.inscriptions (.union ms) = ms.flatMap t.inscriptions := by
  have hall : ∀ ms, memberInscriptions t ms = ms.flatMap t.inscriptions := by
    intro ms
    induction ms with
    | nil => rfl
    | cons m ms ih => rw [memberInscriptions, ih, List.flatMap_cons]
  rw [inscriptions, hall]

/-- The inscriptions of a field: those of its documentation, of its name and of its type. -/
def inscriptionsOf (t : Target) (f : Field) : List Inscription :=
  (TypeScript.fieldDoc f.doc).map .remark ++ (if Text.isIdentifier f.name then [] else [.text f.name]) ++
    t.inscriptions f.type

theorem inscriptions_record (fs : List Field) :
    Target.typescript.inscriptions (.record fs) = fs.flatMap (inscriptionsOf .typescript) := by
  have hall : ∀ fs, fieldInscriptions .typescript fs = fs.flatMap (inscriptionsOf .typescript) := by
    intro fs
    induction fs with
    | nil => rfl
    | cons f fs ih =>
      obtain ⟨name, x, required, doc⟩ := f
      rw [fieldInscriptions, ih, List.flatMap_cons]
      rfl
  rw [inscriptions]
  exact hall fs

theorem textsIn_flatMap {α : Type} (f : α → List Inscription) (xs : List α) :
    textsIn (xs.flatMap f) = xs.flatMap fun x => textsIn (f x) := by
  induction xs with
  | nil => rfl
  | cons x xs ih => rw [List.flatMap_cons, textsIn_append, ih, List.flatMap_cons]

theorem values_union (ms : List TypeExpr) : t.values (.union ms) = ms.flatMap t.values := by
  rw [values, inscriptions_union, textsIn_flatMap]
  rfl

theorem values_literals (vs : List String) : t.values (.literals vs) = vs := by
  rw [values, inscriptions]
  induction vs with
  | nil => rfl
  | cons v vs ih => exact congrArg (v :: ·) ih

theorem sound_union {ms : List TypeExpr} (h : ∀ x ∈ t.inscriptions (.union ms), x.Sound) :
    ∀ m ∈ ms, ∀ x ∈ t.inscriptions m, x.Sound := by
  rw [inscriptions_union] at h
  exact fun m hm x hx => h x (List.mem_flatMap.2 ⟨m, hm, hx⟩)

end Inscriptions

/-! ### Words -/

theorem isPlain_of_isIdentifier {s : String} (h : Text.isIdentifier s = true) : IsPlain s.toList := by
  have hword : ∀ c ∈ s.toList, Text.identifierContinue.contains c ∨
      Text.identifierStart.contains c := by
    unfold Text.isIdentifier at h
    cases hs : s.toList with
    | nil => nofun
    | cons c cs =>
      rw [hs, Text.isIdentifierList, Bool.and_eq_true, List.all_eq_true] at h
      rw [List.forall_mem_cons]
      exact ⟨.inr h.1, fun d hd => .inl (h.2 d hd)⟩
  intro c hc
  have hseparator : ∀ d ∈ TypeScript.separators, c ≠ d := by
    rintro d hd rfl
    obtain ⟨hstart, hcontinue⟩ := TypeScript.not_contains_of_mem_separators hd
    rcases hword c hc with h | h
    · rw [hcontinue] at h
      cases h
    · rw [hstart] at h
      cases h
  exact ⟨hseparator _ (by decide), hseparator _ (by decide)⟩

theorem isPlain_ofName (n : String) : IsPlain (Identifier.ofName n).toList :=
  isPlain_of_isIdentifier (Identifier.isIdentifier_ofName n)

end Target

/-! ### Types -/

namespace Python

open Target (IsPlain Shows shows_plain shows_literal shows_intercalate)

theorem shows_brackets (opening : String) (ho : IsPlain opening.toList) {body : String}
    {vs : List String} (h : Target.python.Shows body vs) :
    Target.python.Shows (opening ++ body ++ "]") vs :=
  (h.behind ho.skipped).before (by decide)

theorem shows_unionText {ms : List TypeExpr} {values : TypeExpr → List String}
    (h : ∀ m ∈ ms, Target.python.Shows (typeText m) (values m)) :
    Target.python.Shows (unionText (ms.map typeText)) (ms.flatMap values) := by
  have hinner : Target.python.Shows (commaSeparated (firstSeen (ms.map typeText)))
      (ms.flatMap values) :=
    shows_intercalate (by decide) (by decide) (fun text => by simp) h
  unfold unionText
  split
  next p hp =>
    rw [hp] at hinner
    simpa [commaSeparated] using hinner
  next => exact shows_brackets "Union[" (by decide) hinner

/-- The text of a type shows the texts that the type holds, but not those of records in it. -/
theorem shows_typeText (x : TypeExpr) (h : ∀ i ∈ Target.python.inscriptions x, i.Sound) :
    Target.python.Shows (typeText x) (Target.python.values x) := by
  induction x using TypeExpr.induct with
  | reference n m =>
    cases m with
    | none => exact shows_plain (Target.isPlain_ofName n)
    | some m =>
      have hm : IsPlain m.toList :=
        Target.isPlain_of_isIdentifier (h (.name n (some m)) List.mem_cons_self m rfl)
      have hbody : IsPlain (Identifier.ofName n ++ "." ++ m).toList := by
        rw [String.toList_append, String.toList_append]
        exact ((Target.isPlain_ofName n).append (by decide)).append hm
      have htext : "Literal[" ++ Identifier.ofName n ++ "." ++ m ++ "]" =
          "Literal[" ++ (Identifier.ofName n ++ "." ++ m) ++ "]" := by
        simp only [String.append_assoc]
      rw [typeText, htext]
      exact shows_brackets _ (by decide) (shows_plain hbody)
  | union ms ih =>
    rw [Target.values_union, typeText, typeTexts_eq_map]
    exact shows_unionText fun m hm => ih m hm (Target.sound_union h m hm)
  | sequence x ih => exact shows_brackets "list[" (by decide) (ih h)
  | record fs _ => exact shows_plain (a := "dict[str, Any]") (by decide)
  | literals vs =>
    have hvalues : Target.python.Shows (commaSeparated (vs.map literal)) (vs.flatMap fun v => [v]) :=
      shows_intercalate (by decide) (by decide) (fun text => by simp) fun v _ => shows_literal v
    rw [List.flatMap_singleton'] at hvalues
    rw [Target.values_literals]
    exact shows_brackets "Literal[" (by decide) hvalues
  | primitive p =>
    refine shows_plain ?_
    cases p <;> decide

end Python

namespace TypeScript

open Target (IsPlain Shows Skipped shows_plain shows_literal shows_intercalate shows_lines)

theorem exists_of_behindMark {cs rest : List Char} (h : behindMark cs = some rest) :
    ∃ part, cs = part ++ rest := by
  fun_induction behindMark cs with
  | case1 r =>
    cases h
    exact ⟨['*', '/'], rfl⟩
  | case2 c r _ ih =>
    obtain ⟨part, rfl⟩ := ih h
    exact ⟨c :: part, rfl⟩
  | case3 => cases h

/-- A comment is passed over. -/
theorem stringsIn_of_behindComment {cs rest : List Char} (h : behindComment cs = some rest) :
    Target.typescript.stringsIn 0 cs = Target.typescript.stringsIn 0 rest := by
  fun_induction behindComment cs with
  | case1 r ih =>
    rw [← ih h]
    exact IsPlain.skipped (a := ['\t']) (by decide) r
  | case2 r =>
    obtain ⟨part, rfl⟩ := exists_of_behindMark h
    have hbehind : behindMark ('*' :: (part ++ rest)).tail = some rest := h
    rw [Target.stringsIn, if_neg (by decide), if_pos (by simp), hbehind, Option.bind_some]
    have hskip : '*' :: (part ++ rest) = ('*' :: part) ++ rest := rfl
    exact Target.stringsIn_skip hskip
  | case3 => cases h

theorem skipped_commentLines (n : Nat) {ls : List String} (h : ¬StandsIn closing ls) :
    Target.typescript.Skipped (Emitter.unlines (commentLines (tabs n) ls)).toList := by
  rw [← Chunk.joined_text_ofLines, Chunk.ofLines]
  split
  next => exact IsPlain.skipped (by decide)
  next =>
    have hcloses : (Chunk.comment n ls).Closes := closes_iff.2 h
    intro rest
    rw [Chunk.joined_cons, Chunk.joined_nil, String.append_empty,
      stringsIn_of_behindComment (hcloses rest)]
    exact IsPlain.skipped (a := ['\n']) (by decide) rest

theorem isPlain_tabs (n : Nat) : IsPlain (tabs n).toList := by
  intro c hc
  rw [tabs, String.toList_ofList] at hc
  rw [List.eq_of_mem_replicate hc]
  decide

/-- What a field shows of its name. -/
def nameTexts (name : String) : List String :=
  if Text.isIdentifier name then [] else [name]

theorem shows_fieldName (name : String) :
    Target.typescript.Shows (fieldName name) (nameTexts name) := by
  unfold fieldName nameTexts
  split
  next h => exact shows_plain (Target.isPlain_of_isIdentifier h)
  next => exact shows_literal name

theorem textsIn_inscriptionsOf (f : Field) :
    Target.textsIn (Target.inscriptionsOf .typescript f) =
      nameTexts f.name ++ Target.typescript.values f.type := by
  have hremarks : ∀ ls : List String, Target.textsIn (ls.map .remark) = [] := by
    intro ls
    induction ls with
    | nil => rfl
    | cons l ls ih => exact ih
  rw [Target.inscriptionsOf, Target.textsIn_append, Target.textsIn_append, hremarks, List.nil_append, nameTexts]
  split <;> rfl

/-- The line of a field behind its comment shows the name and what the type shows. -/
theorem shows_field (n : Nat) {f : Field} (hd : ¬StandsIn closing (fieldDoc f.doc)) {text : String}
    (h : Target.typescript.Shows text (Target.typescript.values f.type)) :
    Target.typescript.Shows
      (Emitter.unlines (commentLines (tabs n) (fieldDoc f.doc)) ++ (fieldHead n f ++ text))
      (Target.textsIn (Target.inscriptionsOf .typescript f)) := by
  have hstart : IsPlain (tabs n ++ "readonly ").toList := by
    rw [String.toList_append]
    exact (isPlain_tabs n).append (by decide)
  have hsign : IsPlain (if f.required then "" else "?").toList := by
    split <;> decide
  have hname : Target.typescript.Shows
      (tabs n ++ "readonly " ++ fieldName f.name ++ if f.required then "" else "?")
      (nameTexts f.name) :=
    ((shows_fieldName f.name).behind hstart.skipped).before hsign
  have htype : Target.typescript.Shows (": " ++ text) (Target.typescript.values f.type) :=
    h.behind (IsPlain.skipped (by decide))
  have hline : fieldHead n f ++ text =
      (tabs n ++ "readonly " ++ fieldName f.name ++ if f.required then "" else "?") ++ (": " ++ text) :=
    String.append_assoc
  rw [textsIn_inscriptionsOf, hline]
  exact (hname.append htype (by simp)).behind (skipped_commentLines n hd)

/-- The text of a type shows the texts that the type holds, with the names of fields that are no
identifiers. -/
theorem shows_typeText (x : TypeExpr) : ∀ indent,
    (∀ i ∈ Target.typescript.inscriptions x, i.Sound) →
      Target.typescript.Shows (typeText indent x) (Target.typescript.values x) := by
  induction x using TypeExpr.induct with
  | reference n m =>
    intro indent h
    cases m with
    | none => exact shows_plain (Target.isPlain_ofName n)
    | some m =>
      have hm : IsPlain m.toList :=
        Target.isPlain_of_isIdentifier (h (.name n (some m)) List.mem_cons_self m rfl)
      refine shows_plain ?_
      rw [typeText, String.toList_append, String.toList_append]
      exact ((Target.isPlain_ofName n).append (by decide)).append hm
  | union ms ih =>
    intro indent h
    rw [Target.values_union, typeText_union]
    exact shows_intercalate (by decide) (by decide) (fun text => by simp) fun m hm =>
      ih m hm indent (Target.sound_union h m hm)
  | sequence x ih =>
    intro indent h
    rw [typeText]
    split
    next =>
      exact (((ih indent h).behind (IsPlain.skipped (by decide))).before (by decide)).before (by decide)
    next => exact (ih indent h).before (by decide)
  | record fs ih =>
    intro indent h
    cases fs with
    | nil => exact shows_plain (a := "object") (by decide)
    | cons f fs =>
      rw [Target.inscriptions_record] at h
      rw [Target.values, Target.inscriptions_record, Target.textsIn_flatMap, typeText_record]
      have hfields : ∀ f' ∈ f :: fs, Target.typescript.Shows
          (Emitter.unlines (commentLines (tabs (indent + 1)) (fieldDoc f'.doc)) ++
            (fieldHead (indent + 1) f' ++ typeText (indent + 1) f'.type))
          (Target.textsIn (Target.inscriptionsOf .typescript f')) := by
        intro f' hf
        have hsound := fun i hi => h i (List.mem_flatMap.2 ⟨f', hf, hi⟩)
        refine shows_field _ ?_ (ih f' hf _ fun i hi => hsound i (List.mem_append_right _ hi))
        rintro ⟨line, hline, hmark⟩
        exact hsound (.remark line) (List.mem_append_left _
          (List.mem_append_left _ (List.mem_map_of_mem hline))) hmark
      have hbody := shows_lines hfields
      simp only [String.append_assoc] at hbody ⊢
      refine Shows.behind (Shows.before hbody ?_) (IsPlain.skipped (by decide))
      rw [String.toList_append]
      exact (isPlain_tabs indent).append (by decide)
  | literals vs =>
    intro indent _
    have hvalues : Target.typescript.Shows (barSeparated (vs.map literal)) (vs.flatMap fun v => [v]) :=
      shows_intercalate (by decide) (by decide) (fun text => by simp) fun v _ => shows_literal v
    rw [List.flatMap_singleton'] at hvalues
    rw [Target.values_literals]
    exact hvalues
  | primitive p =>
    intro indent _
    have hword : IsPlain (primitive p).toList := by
      cases p <;> decide
    exact shows_plain hword

end TypeScript

namespace Target

/-- The text of a type in a language. -/
def typeText (t : Target) (indent : Nat) (x : TypeExpr) : String :=
  match t with
  | .python => Python.typeText x
  | .typescript => TypeScript.typeText indent x

theorem holds_typeText {t : Target} (indent : Nat) {x : TypeExpr} (h : ∀ i ∈ t.inscriptions x, i.Sound) :
    t.Holds (t.typeText indent x) (t.values x) := by
  cases t with
  | python => exact (Python.shows_typeText x h).holds
  | typescript => exact (TypeScript.shows_typeText x indent h).holds

/-- In Python the members of enumerations show in fields alone. -/
theorem sound_of_memberless {x : TypeExpr} (h : x.Memberless) :
    ∀ i ∈ Target.python.inscriptions x, i.Sound := by
  induction h with
  | reference n =>
    intro i hi
    rw [List.mem_singleton.1 hi]
    nofun
  | union _ _ ih =>
    intro i hi
    rw [inscriptions_union] at hi
    obtain ⟨m, hm, hi⟩ := List.mem_flatMap.1 hi
    exact ih m hm i hi
  | sequence _ ih => exact ih
  | record _ _ => nofun
  | literals vs =>
    intro i hi
    obtain ⟨v, -, rfl⟩ := List.mem_map.1 hi
    trivial
  | primitive p => nofun

end Target

/-! ### Modules -/

namespace Emitter

open Python (isFieldName)
open List (Forall₂)

/-- The line of a discriminant whose literal has this text. -/
def memberLine (t : Target) (identifier text : String) : String :=
  match t with
  | .python => "    " ++ identifier ++ " = " ++ text
  | .typescript => "\t" ++ identifier ++ " = " ++ text ++ ","

theorem exists_registry_source (e : Emitter) (r : Registry) : ∃ before after,
    (e.registry r).source = unlines (before ++
      r.entries.map (fun x => memberLine e.target x.identifier (literal x.discriminant)) ++ after) := by
  unfold registry
  cases e.target with
  | python =>
    have hmember : ∀ x : Registry.Entry,
        "    " ++ (x.identifier ++ " = " ++ literal x.discriminant ++ "") =
          memberLine .python x.identifier (literal x.discriminant) := by
      intro x
      simp only [memberLine, String.append_assoc, String.append_empty]
    simp only [hmember]
    exact ⟨_, [], (congrArg unlines (List.append_nil _)).symm⟩
  | typescript =>
    have hmember : ∀ x : Registry.Entry,
        "\t" ++ (x.identifier ++ " = " ++ literal x.discriminant ++ ",") =
          memberLine .typescript x.identifier (literal x.discriminant) := by
      intro x
      simp only [memberLine, String.append_assoc]
    simp only [hmember]
    exact ⟨_, _, rfl⟩

/-- The line of a field in a call, with the literals of its name and of its annotation. -/
def fieldLine (key note : String) : String :=
  "        " ++ key ++ ": " ++ note ++ ","

/-- The name of a field and its annotation come back from their literals, and the annotation holds the
texts of the type. -/
structure Quotes (f : Field) (line : String) : Prop where
  exists_literals : ∃ key note, line = fieldLine key note ∧ Target.python.Denotes key f.name ∧
    Target.python.Denotes note (Python.fieldAnnotation f.type f.required)
  holds : (∀ n m, f.type ≠ .reference n (some m)) →
    Target.python.Holds (Python.fieldAnnotation f.type f.required) (Target.python.values f.type)

theorem holds_fieldAnnotation {x : TypeExpr} (h : x.Memberless) (required : Bool) :
    Target.python.Holds (Python.fieldAnnotation x required) (Target.python.values x) := by
  have hshows := Python.shows_typeText x (Target.sound_of_memberless h)
  unfold Python.fieldAnnotation
  split
  next => exact hshows.holds
  next => exact (Python.shows_brackets "NotRequired[" (by decide) hshows).holds

/-- The lines of a record that is written as a call. -/
theorem exists_call_source {e : Emitter} {name : String} {s : Synthesis} {m : Module}
    (hm : e.Declares name s m) (he : e.target = .python) {fields : List Field}
    (hs : s.type = .record fields) (hf : ¬∀ f ∈ fields, isFieldName f.name) : ∃ before after,
    m.source = unlines (before ++ fields.map (fun f =>
      fieldLine (literal f.name) (literal (Python.fieldAnnotation f.type f.required))) ++ after) := by
  obtain ⟨docs, hsource⟩ := hm.exists_source
  have hcall : (fields.all fun f => isFieldName f.name) = false := by
    rw [Bool.eq_false_iff]
    exact fun hall => hf (List.all_eq_true.1 hall)
  rw [hsource, declarationLines, he]
  dsimp only
  rw [pythonDeclaration, hs]
  dsimp only
  rw [hcall, if_neg (by decide), pythonCall]
  have hassoc : ∀ a b c d l : List String, a ++ (b ++ c ++ d ++ l) = a ++ b ++ c ++ (d ++ l) := by
    simp
  exact ⟨_, _, congrArg unlines (hassoc _ _ _ _ _)⟩

/-- The line of an alias that is quoted. -/
theorem exists_alias_source {e : Emitter} {name : String} {s : Synthesis} {m : Module}
    (hm : e.Declares name s m) (he : e.target = .python) (hs : s.type.isRecord = false)
    (hd : s.deps ≠ []) : ∃ before, m.source = unlines (before ++
      [Identifier.ofName name ++ ": TypeAlias = " ++ literal (Python.typeText s.type)]) := by
  obtain ⟨docs, hsource⟩ := hm.exists_source
  have hquoted : (if s.deps.isEmpty then Python.typeText s.type
      else literal (Python.typeText s.type)) = literal (Python.typeText s.type) :=
    if_neg (by simpa using hd)
  have halias : pythonDeclaration (Identifier.ofName name) docs s = docs.map remark ++
      [Identifier.ofName name ++ ": TypeAlias = " ++ literal (Python.typeText s.type)] := by
    rw [← hquoted, pythonDeclaration]
    cases ht : s.type with
    | record fields =>
      rw [ht] at hs
      cases hs
    | _ => rfl
  rw [hsource, declarationLines, he]
  dsimp only
  rw [halias, ← List.append_assoc]
  exact ⟨_, rfl⟩

/-- An object whose property has no name for a class and an annotation with a text in it. -/
def ticket : Definition :=
  { Definition.blank with
    properties := some [("seat-no", { Definition.blank with
      oneOf := some [Synthesis.pointer "Ticket", { Definition.blank with enum := some ["1\"\n"] }] })] }

def tickets : Document :=
  ⟨[(.text "Ticket", ticket)]⟩

end Emitter

end SchemaDecl
