import ModelReach.Reach.Builder
import ModelReach.Run.Modules
import ModelReach.Run.Options
import ModelReach.Schema.Artifact

/-! A whole run: find the modules and the entry types, follow them to the models, and describe these. -/
namespace ModelReach.Run
set_option autoImplicit false

open Files (FileTree)

/-! ## Results -/

structure RunResult where
  entryTypes : List String
  implementingModels : List String
  models : List String
  failedModules : List String
  schemas : List Document

def sortedNames (s : TypeSet) : List String :=
  sortStrings (s.members.map Descriptor.qualifiedName)

/-! ## Collection -/

def notePhase (before : Reach.Phase) : RunM Unit :=
  note .debug "collector.reachability"
    ("Reachability " ++ before.name ++ " -> " ++ before.next.name)

def noteModels (s : TypeSet) (what : String) : RunM Unit :=
  note .debug "collector.reachability" (s.size.repr ++ " models " ++ what)

def noteBuild (r : Reach.Reachability) : RunM Unit := do
  noteModels r.implementing "referenced by entry methods"
  notePhase .collectDirect
  noteModels r.derived "after derived type expansion"
  notePhase .expandDerived
  noteModels r.models "after property closure"
  notePhase .closeProperties

/-- Find the models that can be reached from the entry types in the files of a tree. -/
def reach (t : FileTree) (options : ScanOptions) (o : SetOrder) : RunM Reach.Reachability := do
  let files ← loadModules t options.source options.patterns
  let entries ← collectEntryTypes t files options.entryMarkers
  ask (Reach.build options.policy Catalogue.view o entries.members)

def collect (t : FileTree) (options : ScanOptions) (o : SetOrder) : RunM RunResult := do
  let reached ← reach t options o
  noteBuild reached
  let schemas ← ask (generateSchemas Catalogue.view (some options.policy) (reached.models.visit o))
  let s ← get
  pure {
    entryTypes := sortedNames reached.entryTypes
    implementingModels := sortedNames reached.implementing
    models := sortedNames reached.models
    failedModules := sortStrings (s.catalogue.failures.map (·.1))
    schemas := schemas.map ModelSchema.document }

def collectFrom (t : FileTree) (options : ScanOptions) (o : SetOrder) :
    Except RunFault RunResult × List LogRecord :=
  let (result, s) := (collect t options o).run.run RunState.start
  (result, s.log)

/-! ## Runs -/

inductive WriteFault where
  | run (fault : RunFault)
  | artifact (fault : ArtifactFault)

/-- Everything that a run leaves behind. -/
structure RunOutcome where
  result : Except WriteFault RunResult
  log : List LogRecord
  tree : FileTree

/-- Collect and write the artifact to its destination. -/
def run (t : FileTree) (options : RunOptions) (o : SetOrder) : RunOutcome :=
  match collectFrom t options.scan o with
  | (.error fault, log) => ⟨.error (.run fault), log, t⟩
  | (.ok result, log) =>
    match writeArtifact t options.destination result.schemas with
    | (t, .error fault) => ⟨.error (.artifact fault), log, t⟩
    | (t, .ok ()) =>
      let written : LogRecord := ⟨.debug, "collector.collect",
        "Wrote " ++ result.schemas.length.repr ++ " schemas to " ++ options.destination⟩
      ⟨.ok result, log ++ [written], t⟩

end ModelReach.Run
