import SchemaDecl.Proofs.TypeExpr.Canonical
import SchemaDecl.Proofs.TypeScript.Tokens

/-! Types read from TypeScript. The brackets of an array belong to the one operand before them, a bar
joins alternatives, and parentheses and object types hold types of their own; what is open is kept on a
stack. A type that comes complete leaves everything around it as it was, so what a text denotes follows
from what its parts denote. -/

namespace SchemaDecl.TypeScript

open TypeExpr (unionOf)

/-! ### The machine -/

/-- What is open around a type, with what was read there before. -/
inductive Frame where
  | group (front : List TypeExpr)
  | field (front : List TypeExpr) (fields : List Field) (name : String) (required : Bool)

/-- What was read last. -/
inductive Phase where
  /-- Nothing yet of a type that is to come. -/
  | operand
  | named (n : String)
  | dotted (n : String)
  | complete (t : TypeExpr)
  | opened (t : TypeExpr)
  | fields (fs : List Field)
  | key (fs : List Field)
  | sign (fs : List Field) (name : String)
  | colon (fs : List Field) (name : String)

/-- The type that may end here. -/
def Phase.type? : Phase → Option TypeExpr
  | .named n => some (.reference n none)
  | .complete t => some t
  | _ => none

structure Reader where
  stack : List Frame
  /-- The alternatives before the current one. -/
  front : List TypeExpr
  phase : Phase

/-- Words that are types of their own. -/
def builtinTypes : List String :=
  ["any", "bigint", "boolean", "false", "never", "null", "number", "object", "string", "symbol", "this",
    "true", "undefined", "unknown", "void"]

/-- Words that types of another form begin with. -/
def typeOperators : List String :=
  ["import", "infer", "keyof", "new", "readonly", "typeof", "unique"]

/-- A word where a type is to come. -/
def ofWord? (w : String) : Option Phase :=
  match Primitive.ofName? w with
  | some p => some (.complete (.primitive p))
  | none =>
    if w == "object" then some (.complete (.record []))
    else if builtinTypes.contains w || typeOperators.contains w then none
    else some (.named w)

namespace Reader

/-- A token behind a type. -/
def after (r : Reader) (t : TypeExpr) : Token → Option Reader
  | .mark '|' => some { r with front := r.front ++ [t], phase := .operand }
  | .mark '[' => some { r with phase := .opened t }
  | .mark ')' =>
    match r.stack with
    | .group front :: stack => some ⟨stack, front, .complete (unionOf (r.front ++ [t]))⟩
    | _ => none
  | .line =>
    match r.stack with
    | .field front fs name required :: stack =>
      some ⟨stack, front, .fields (fs ++ [.mk name (unionOf (r.front ++ [t])) required {}])⟩
    | _ => none
  | _ => none

/-- The type of a field is to come. -/
def enter (r : Reader) (fs : List Field) (name : String) (required : Bool) : Reader :=
  ⟨.field r.front fs name required :: r.stack, [], .operand⟩

def step (r : Reader) (tok : Token) : Option Reader :=
  match r.phase, tok with
  | .operand, .word w => (ofWord? w).map fun p => { r with phase := p }
  | .operand, .text s => some { r with phase := .complete (.literals [s]) }
  | .operand, .mark '(' => some ⟨.group r.front :: r.stack, [], .operand⟩
  | .operand, .mark '\x7b' => some { r with phase := .fields [] }
  | .named n, .mark '.' => some { r with phase := .dotted n }
  | .dotted n, .word m => some { r with phase := .complete (.reference n (some m)) }
  | .opened t, .mark ']' => some { r with phase := .complete (.sequence t) }
  | .fields _, .line => some r
  | .fields fs, .word "readonly" => some { r with phase := .key fs }
  | .fields fs, .mark '\x7d' => some { r with phase := .complete (.record fs) }
  | .key fs, .word name => some { r with phase := .sign fs name }
  | .key fs, .text name => some { r with phase := .sign fs name }
  | .sign fs name, .mark '?' => some { r with phase := .colon fs name }
  | .sign fs name, .mark ':' => some (r.enter fs name true)
  | .colon fs name, .mark ':' => some (r.enter fs name false)
  | p, tok => p.type?.bind fun t => r.after t tok

end Reader

/-- The alternatives of the type that some tokens denote. -/
def reading (ts : List Token) : Option (List TypeExpr) := do
  let r ← ts.foldlM Reader.step ⟨[], [], .operand⟩
  if r.stack.isEmpty then return r.front ++ [← r.phase.type?] else none

/-- The alternatives of the type that a text denotes. -/
def readAlternatives (text : String) : Option (List TypeExpr) :=
  (tokens text.toList).bind reading

/-- The type that a text denotes. -/
def read (text : String) : Option TypeExpr :=
  (readAlternatives text).map unionOf

example : read "A | B[]" = some (.union [.reference "A" none, .sequence (.reference "B" none)]) := by
  decide +kernel

example : read "(A | B)[]" = some (.sequence (.union [.reference "A" none, .reference "B" none])) := by
  decide +kernel

/-! ### Types -/

/-- Wherever a type is to come, the tokens add some alternatives to those before. -/
def Reads (ts : List Token) (alts : List TypeExpr) : Prop :=
  ∀ stack front, ∃ front' p t, ts.foldlM Reader.step ⟨stack, front, .operand⟩ =
    some ⟨stack, front', p⟩ ∧ p.type? = some t ∧ front' ++ [t] = front ++ alts

section Reads

variable {ts us : List Token} {as bs : List TypeExpr}

theorem Reads.reading_eq (h : Reads ts as) : reading ts = some as := by
  obtain ⟨front', p, t, hr, hp, ht⟩ := h [] []
  rw [reading, hr]
  simp [hp, ht]

theorem Reads.ne_nil (h : Reads ts as) : as ≠ [] := by
  obtain ⟨front', p, t, -, -, ht⟩ := h [] []
  rintro rfl
  simp at ht

/-- One operand. -/
theorem reads_of_complete {t : TypeExpr} {p : Phase} (hp : p.type? = some t)
    (h : ∀ stack front, ts.foldlM Reader.step ⟨stack, front, .operand⟩ = some ⟨stack, front, p⟩) :
    Reads ts [t] :=
  fun stack front => ⟨front, p, t, h stack front, hp, rfl⟩

theorem reads_text (s : String) : Reads [.text s] [.literals [s]] :=
  reads_of_complete (p := .complete _) rfl fun _ _ => rfl

theorem step_word (stack : List Frame) (front : List TypeExpr) (w : String) :
    Reader.step ⟨stack, front, .operand⟩ (.word w) = (ofWord? w).map fun p => ⟨stack, front, p⟩ := rfl

theorem reads_word {w : String} {p : Phase} {t : TypeExpr} (hw : ofWord? w = some p)
    (hp : p.type? = some t) : Reads [.word w] [t] :=
  reads_of_complete hp fun stack front => by
    rw [List.foldlM_cons, step_word, hw]
    rfl

theorem reads_member {n : String} (hn : ofWord? n = some (.named n)) (m : String) :
    Reads [.word n, .mark '.', .word m] [.reference n (some m)] :=
  reads_of_complete (p := .complete _) rfl fun stack front => by
    rw [List.foldlM_cons, step_word, hn]
    rfl

/-- Behind a type no token but a dot looks at how it was written. -/
theorem step_eq_after {stack : List Frame} {front : List TypeExpr} {p : Phase} {t : TypeExpr}
    (hp : p.type? = some t) {tok : Token} (hd : tok ≠ .mark '.') :
    Reader.step ⟨stack, front, p⟩ tok = Reader.after ⟨stack, front, p⟩ t tok := by
  cases p with
  | named n =>
    cases hp
    rw [Reader.step]
    · rfl
    all_goals simp_all
  | complete u =>
    cases hp
    rfl
  | _ => cases hp

/-- A bar joins alternatives. -/
theorem Reads.bar (ha : Reads ts as) (hb : Reads us bs) :
    Reads (ts ++ .mark '|' :: us) (as ++ bs) := by
  intro stack front
  obtain ⟨front', p, t, hr, hp, ht⟩ := ha stack front
  obtain ⟨front'', q, u, hr', hq, hu⟩ := hb stack (front' ++ [t])
  refine ⟨front'', q, u, ?_, hq, by rw [hu, ht, List.append_assoc]⟩
  rw [List.foldlM_append, hr, Option.bind_eq_bind, Option.bind_some, List.foldlM_cons,
    step_eq_after hp (by simp)]
  exact hr'

/-- The brackets of an array belong to the last alternative alone. -/
theorem Reads.array {t : TypeExpr} (h : Reads ts (as ++ [t])) :
    Reads (ts ++ [.mark '[', .mark ']']) (as ++ [.sequence t]) := by
  intro stack front
  obtain ⟨front', p, u, hr, hp, hu⟩ := h stack front
  rw [← List.append_assoc] at hu
  obtain ⟨rfl, hut⟩ := List.append_inj' hu rfl
  cases hut
  refine ⟨front ++ as, .complete (.sequence t), .sequence t, ?_, rfl, by rw [List.append_assoc]⟩
  rw [List.foldlM_append, hr, Option.bind_eq_bind, Option.bind_some, List.foldlM_cons,
    step_eq_after hp (by simp)]
  rfl

/-- Parentheses make one operand of all alternatives. -/
theorem Reads.group (h : Reads ts as) :
    Reads (.mark '(' :: (ts ++ [.mark ')'])) [unionOf as] :=
  reads_of_complete (p := .complete _) rfl fun stack front => by
    obtain ⟨front', p, t, hr, hp, ht⟩ := h (.group front :: stack) []
    have hopen : Reader.step ⟨stack, front, .operand⟩ (.mark '(') =
        some ⟨.group front :: stack, [], .operand⟩ := rfl
    rw [List.foldlM_cons, hopen, Option.bind_eq_bind, Option.bind_some, List.foldlM_append, hr,
      Option.bind_eq_bind, Option.bind_some, List.foldlM_cons, step_eq_after hp (by simp),
      Reader.after, ht]
    rfl

end Reads

/-! ### Object types -/

/-- Some fields of an object type were read, and an end of line is to come. -/
def Ready (r : Reader) (stack : List Frame) (front : List TypeExpr) (fs : List Field) : Prop :=
  r.step .line = some ⟨stack, front, .fields fs⟩

/-- The tokens add some fields to those before. -/
def ReadsFields (ts : List Token) (added : List Field) : Prop :=
  ∀ r stack front fs, Ready r stack front fs →
    ∃ r', ts.foldlM Reader.step r = some r' ∧ Ready r' stack front (fs ++ added)

section Fields

variable {ts us : List Token} {fs gs : List Field}

theorem readsFields_nil : ReadsFields [] [] := by
  intro r stack front fs h
  exact ⟨r, rfl, by rwa [List.append_nil]⟩

theorem ReadsFields.append (h : ReadsFields ts fs) (h' : ReadsFields us gs) :
    ReadsFields (ts ++ us) (fs ++ gs) := by
  intro r stack front before hr
  obtain ⟨r', hts, hr'⟩ := h r stack front before hr
  obtain ⟨r'', hus, hr''⟩ := h' r' stack front _ hr'
  refine ⟨r'', ?_, by rwa [← List.append_assoc]⟩
  rw [List.foldlM_append, hts]
  exact hus

/-- The end of a line alone adds nothing. -/
theorem readsFields_line : ReadsFields [.line] [] := by
  intro r stack front fs h
  refine ⟨⟨stack, front, .fields fs⟩, ?_, ?_⟩
  · rw [List.foldlM_cons, h]
    rfl
  · rw [List.append_nil]
    rfl

/-- The token of a field name. -/
inductive IsKey (name : String) : Token → Prop
  | word : IsKey name (.word name)
  | text : IsKey name (.text name)

/-- What stands between the name of a field and its type. -/
def signs (required : Bool) : List Token :=
  (if required then [] else [.mark '?']) ++ [.mark ':']

theorem readsFields_field {name : String} {key : Token} (hk : IsKey name key) (required : Bool)
    {alts : List TypeExpr} (h : Reads ts alts) :
    ReadsFields (.line :: .word "readonly" :: key :: (signs required ++ ts))
      [.mk name (unionOf alts) required {}] := by
  intro r stack front fs hr
  obtain ⟨front', p, t, hts, hp, ht⟩ := h (.field front fs name required :: stack) []
  refine ⟨⟨.field front fs name required :: stack, front', p⟩, ?_, ?_⟩
  · have hkey : Reader.step ⟨stack, front, .key fs⟩ key = some ⟨stack, front, .sign fs name⟩ := by
      cases hk <;> rfl
    have hsigns : (signs required).foldlM Reader.step ⟨stack, front, .sign fs name⟩ =
        some ⟨.field front fs name required :: stack, [], .operand⟩ := by
      cases required <;> rfl
    have hword : Reader.step ⟨stack, front, .fields fs⟩ (.word "readonly") =
        some ⟨stack, front, .key fs⟩ := rfl
    have hline : r.step .line = some ⟨stack, front, .fields fs⟩ := hr
    simp only [List.foldlM_cons, List.foldlM_append, Option.bind_eq_bind, hline, hword, hkey,
      hsigns, Option.bind_some, hts]
  · rw [Ready, step_eq_after hp (by simp), Reader.after, ht]
    rfl

/-- Fields in braces are one operand. -/
theorem ReadsFields.record (h : ReadsFields ts fs) :
    Reads (.mark '\x7b' :: (ts ++ [.line, .mark '\x7d'])) [.record fs] :=
  reads_of_complete (p := .complete _) rfl fun stack front => by
    obtain ⟨r, hts, hr⟩ := h ⟨stack, front, .fields []⟩ stack front [] rfl
    have hopen : Reader.step ⟨stack, front, .operand⟩ (.mark '\x7b') =
        some ⟨stack, front, .fields []⟩ := rfl
    rw [List.foldlM_cons, hopen, Option.bind_eq_bind, Option.bind_some, List.foldlM_append, hts,
      Option.bind_eq_bind, Option.bind_some, List.foldlM_cons, hr]
    rfl

end Fields

end SchemaDecl.TypeScript
