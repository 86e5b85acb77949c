import SchemaDecl.TypeExpr
import SchemaDecl.Registry
import SchemaDecl.Text.Blank

/-! From definitions to type expressions. The first of these that a definition has decides: a
reference, an enumeration, alternatives, an array, an object, a scalar type; at the top level an
object comes before all. References are looked up but never replaced by what they refer to, so the
work is bounded by the size of the definition. -/

namespace SchemaDecl

/-! ### Documentation of fields -/

/-- What is shown for a date or a time without an example. -/
def formatSamples : List (String × String) :=
  [("date", "1970-01-01"), ("time", "10:05:08+01:00"), ("date-time", "1970-01-01T10:05:08+01:00")]

/-- Whether a text contains another one. -/
def mentions (needle s : String) : Bool :=
  Document.occursIn needle.toList s.toList

/-- A text that is there and not empty. -/
def nonempty (s : Option String) : Option String :=
  s.filter fun t => t != ""

/-- The documentation of a property. The property that holds the discriminant has neither a type nor
an example to show. -/
def FieldDoc.ofDefinition (name : String) (d : Definition) : Except Json.WriteError FieldDoc := do
  let description := (nonempty d.notes.description).map Text.trim
  let deprecated := (description.map (mentions "DEPRECATED")).getD false
  if name == tagProperty then .ok { description, deprecated }
  else
    let jsonSchema := (nonempty d.type).map fun t =>
      match nonempty d.notes.format with
      | some f => t ++ " (" ++ f ++ ")"
      | none => t
    let sample ←
      if d.notes.sample.isTruthy then (Json.write .example d.notes.sample).map some
      else
        match d.notes.format.bind fun f => formatSamples.lookup f with
        | some s => (Json.write .example (.text s)).map some
        | none => .ok none
    .ok { description, deprecated, jsonSchema, sample }

/-! ### Types -/

/-- Why a definition has no type: it is at fault itself, or its name yields no identifier, or an
example of it cannot be shown. -/
inductive SynthesisFault where
  | schema (e : SchemaError)
  | unnamable
  | unwritable (e : Json.WriteError)
  deriving Repr

def SynthesisFault.toFault : SynthesisFault → Fault
  | .schema e => .failure (.schema e)
  | .unnamable => .wrongType
  | .unwritable e => .ofWriteError e

namespace Synthesis

/-- The scalar types. -/
def scalarOf? (type : String) : Option Primitive :=
  if type == "integer" then some .number
  else if type == "string" then some .string
  else if type == "boolean" then some .boolean
  else none

/-- A reference, by the name that it names or by the type that stands for all definitions of its
kind. -/
def ofRef (d : Document) (ref : String) (owner : Option Name) : Except SynthesisFault Synthesis :=
  match d.resolve ref owner with
  | .error e => .error (.schema e)
  | .ok (target, _) =>
    let symbol := (d.sentinelKind (.text target)).getD target
    .ok ⟨.reference symbol none, [symbol]⟩

def ofEnum (values : List String) (owner : Option Name) : Except SynthesisFault Synthesis :=
  if values.isEmpty then .error (.schema (.emptyEnum owner)) else .ok ⟨.literals values, []⟩

def ofScalar (type : Option String) (owner : Option Name) : Except SynthesisFault Synthesis :=
  match type.bind scalarOf? with
  | some p => .ok ⟨.primitive p, []⟩
  | none => .error (.schema (.unsupported type owner))

/-- The member of the registry that an object is told by: the one for its discriminant, or else an
identifier made of the name of the definition around it. -/
def memberFor (registry : Option Registry) (name : Name) (tag : Definition) :
    Except SynthesisFault String :=
  match registry.bind fun r => tag.notes.sample.asText?.bind r.identifierFor with
  | some identifier => .ok identifier
  | none =>
    match name.identifier? with
    | some identifier => .ok identifier
    | none => .error .unnamable

def docFor (name : String) (d : Definition) : Except SynthesisFault FieldDoc :=
  (FieldDoc.ofDefinition name d).mapError .unwritable

/-- The name that stands for the owner of an object inside another definition. -/
def enclosing (owner : Option Name) : Name :=
  match owner with
  | some n => if n.isTruthy then n else .text ""
  | none => .text ""

/-- A record of fields with their dependencies. -/
def ofFields (fields : List (Field × List String)) : Synthesis :=
  ⟨.record (fields.map Prod.fst), mergeDeps (fields.map Prod.snd)⟩

mutual

/-- The type of a definition that belongs to `owner`. -/
def ofDefinition (doc : Document) (registry : Option Registry) (owner : Option Name) :
    Definition → Except SynthesisFault Synthesis
  | .mk ref oneOf type enum items properties required _ =>
    match ref with
    | some ref => ofRef doc ref owner
    | none =>
      match enum with
      | some values => ofEnum values owner
      | none =>
        match oneOf with
        | some [] => .error (.schema (.emptyOneOf owner))
        | some (b :: bs) => do
          let branches ← ofBranches doc registry owner (b :: bs)
          .ok ⟨.union (branches.map Synthesis.type), mergeDeps (branches.map Synthesis.deps)⟩
        | none =>
          if type == some "array" then
            match items with
            | none => .error (.schema (.arrayWithoutItems owner))
            | some item => do
              let item ← ofDefinition doc registry owner item
              .ok ⟨.sequence item.type, item.deps⟩
          else
            match properties with
            | some ps => do .ok (ofFields (← ofProperties doc registry (enclosing owner) required ps))
            | none => if type == some "object" then .ok (ofFields []) else ofScalar type owner

def ofBranches (doc : Document) (registry : Option Registry) (owner : Option Name) :
    List Definition → Except SynthesisFault (List Synthesis)
  | [] => .ok []
  | d :: rest => do
    let s ← ofDefinition doc registry owner d
    .ok (s :: (← ofBranches doc registry owner rest))

/-- The fields of an object with the dependencies of each. The property that holds the discriminant
is always there, whatever its own definition says. -/
def ofProperties (doc : Document) (registry : Option Registry) (name : Name)
    (required : List String) :
    List (String × Definition) → Except SynthesisFault (List (Field × List String))
  | [] => .ok []
  | (p, d) :: rest => do
    let s ←
      if p == tagProperty then do
        let member ← memberFor registry name d
        Except.ok (⟨.reference Registry.symbol (some member), [Registry.symbol]⟩ : Synthesis)
      else ofDefinition doc registry (some name) d
    let fieldDoc ← docFor p d
    let field := Field.mk p s.type (p == tagProperty || required.contains p) fieldDoc
    .ok ((field, s.deps) :: (← ofProperties doc registry name required rest))

end

/-- The record of an object that belongs to the definition `name`. -/
def ofObject (doc : Document) (registry : Option Registry) (name : Name) (d : Definition) :
    Except SynthesisFault Synthesis := do
  .ok (ofFields (← ofProperties doc registry name d.required (d.properties.getD [])))

/-- The type of a definition at the top level of a document. -/
def ofSchema (doc : Document) (registry : Option Registry) (name : Name) (d : Definition) :
    Except SynthesisFault Synthesis :=
  if d.isObject then ofObject doc registry name d else ofDefinition doc registry (some name) d

end Synthesis

end SchemaDecl
