import SchemaDecl.Target
import SchemaDecl.Definition.Decode

/-! The settings of a run. They come from decoded data, where keys without a meaning are passed over
and every other part must have the right kind. -/

namespace SchemaDecl

structure Settings where
  target : Target := .python
  outputDir : String := "generated"
  knownModules : List (String × String) := []
  keepGoing : Bool := false
  header : String := "Auto-generated file. Do not change."
  deriving DecidableEq, Repr

namespace Settings

/-! ### Yes and no -/

def falseWords : List String := ["0", "f", "n", "no", "off", "false"]

def trueWords : List String := ["1", "t", "y", "on", "yes", "true"]

/-- The integer that a floating-point number stands for, if it is one of less than 64 bits. -/
def wholeOf? (x : Binary64) : Option Int :=
  match x with
  | .finite negative m q =>
    let n := Binary64.scaledInt negative m q
    let whole := n / Binary64.commonDenominator
    if n % Binary64.commonDenominator == 0 && whole.natAbs < Binary64.twoTo 63 then some whole
    else none
  | _ => none

def truthOfInt (n : Int) : Check Bool :=
  if n == 0 then .ok false else if n == 1 then .ok true else Check.bad .truthWord

/-- Reads a truth value, a number that is zero or one, or a word for yes or no in any case. -/
def truth : Value → Check Bool
  | .bool b => .ok b
  | .text s =>
    let word := s.toLower
    if falseWords.contains word then .ok false
    else if trueWords.contains word then .ok true
    else Check.bad .truthWord
  | .int n => if Check.isWord n then truthOfInt n else Check.bad .truth
  | .float x =>
    match wholeOf? x with
    | some n => truthOfInt n
    | none => Check.bad .truth
  | _ => Check.bad .truth

/-! ### Decoding -/

def targetOf : Value → Check Target
  | .text s =>
    match Target.ofWord? s with
    | some t => .ok t
    | none => Check.bad .choice
  | _ => Check.bad .choice

def textEntries : List (Value × Value) → Check (List (String × String))
  | [] => .ok []
  | (k, v) :: rest => Check.cons (Check.entry k (Check.text v)) (textEntries rest)

def textMap : Value → Check (List (String × String))
  | .map entries => textEntries entries
  | _ => Check.bad .mapping

/-- The part under a key, or what holds without it. -/
def part {α : Type} (entries : List (Value × Value)) (key : String) (fallback : α)
    (f : Value → Check α) : Check α :=
  match Value.fieldOf key entries with
  | some v => (f v).within (.name key)
  | none => .ok fallback

/-- The settings that decoded data describes. -/
def decode : Value → Check Settings
  | .map entries =>
    let usual : Settings := {}
    ((part entries "target" usual.target targetOf).and <|
      (part entries "output_dir" usual.outputDir Check.text).and <|
      (part entries "known_modules" usual.knownModules textMap).and <|
      (part entries "keep_going" usual.keepGoing truth).and <|
      part entries "header" usual.header Check.text).map
        fun (target, outputDir, knownModules, keepGoing, header) =>
          { target, outputDir, knownModules, keepGoing, header }
  | _ => Check.bad .model

end Settings

end SchemaDecl
