import SchemaDecl.Value

/-! A definition of a schema document: a reference, an enumeration, alternatives, an array, an object
or a scalar. Which of these it is, is decided where it is used; a definition only says what its
document wrote. -/

namespace SchemaDecl

/-- What a definition says for readers alone. -/
structure Notes where
  description : Option String
  sample : Value
  format : Option String
  fallback : Value
  deriving Inhabited, Repr

structure Definition where
  ref : Option String
  oneOf : Option (List Definition)
  type : Option String
  enum : Option (List String)
  items : Option Definition
  properties : Option (List (String × Definition))
  required : List String
  notes : Notes
  deriving Inhabited, Repr

/-- The property whose example tells objects of one kind from those of others. -/
def tagProperty : String := "_object"

namespace Definition

/-- The definition of a property; of two with one name the first counts. -/
def property? (d : Definition) (name : String) : Option Definition :=
  (d.properties.getD []).lookup name

/-- The discriminant of an object: the text that its tag property gives as an example. -/
def discriminant (d : Definition) : Option String :=
  match d.property? tagProperty with
  | some tag => tag.notes.sample.asText?
  | none => none

/-- Whether a definition declares an object. -/
def isObject (d : Definition) : Bool :=
  d.properties.isSome || d.type == some "object"

end Definition

end SchemaDecl
