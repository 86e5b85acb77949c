import SchemaDecl.Emission
import SchemaDecl.Settings

/-! A run from a document to modules: the registry is built first, then every definition is
synthesized and written in the order of the document, and the modules of the registry and the index
come last. A definition at fault ends the run, or is recorded and passed over when the run is to keep
going. -/

namespace SchemaDecl

structure Generation where
  registry : Registry
  declarations : List Module
  registryModule : Module
  index : Module
  failures : List (Name × SchemaError)

namespace Generation

/-- All modules, declarations first. -/
def modules (g : Generation) : List Module :=
  g.declarations ++ [g.registryModule, g.index]

def emitterOf (s : Settings) : Emitter :=
  ⟨s.target, s.knownModules, s.header⟩

/-- What becomes of one definition: a module, or the error for which it has none. -/
def declare (doc : Document) (registry : Registry) (e : Emitter) (name : Name) (d : Definition) :
    Except Fault (Except SchemaError Module) :=
  match Synthesis.ofSchema doc (some registry) name d with
  | .ok s => (e.declaration name d s).map .ok
  | .error (.schema err) => .ok (.error err)
  | .error f => .error f.toFault

/-- The modules of the definitions, and the errors of those that have none. -/
def declareAll (doc : Document) (registry : Registry) (e : Emitter) (keepGoing : Bool) :
    List (Name × Definition) → Run (List Module × List (Name × SchemaError))
  | [] => pure ([], [])
  | (name, d) :: rest => do
    match ← Run.ofExcept (declare doc registry e name d) with
    | .ok m => do
      let (ms, fs) ← declareAll doc registry e keepGoing rest
      return (m :: ms, fs)
    | .error err =>
      if keepGoing then do
        Run.tell (.debug ("Skipping " ++ name.display ++ ": " ++ err.message))
        let (ms, fs) ← declareAll doc registry e keepGoing rest
        return (ms, (name, err) :: fs)
      else Run.fail (.failure (.schema err))

/-- The run on a document, with the entries of the registry of an earlier run. -/
def run (doc : Document) (settings : Settings) (previous : List Registry.Entry) : Run Generation := do
  let registry ← Registry.build doc previous
  let e := emitterOf settings
  Run.tell (.debug ("Registry holds " ++ toString registry.entries.length ++ " discriminants"))
  let (declarations, failures) ← declareAll doc registry e settings.keepGoing doc.entries
  let registryModule := e.registry registry
  return {
    registry, declarations, registryModule, failures
    index := e.index (registryModule :: declarations) }

end Generation

end SchemaDecl
