import ModelReach.Run.Log
import ModelReach.Types.Loading
import ModelReach.Types.TypeSet

/-! The modules of a run and the entry types among their classes. -/
namespace ModelReach.Run
set_option autoImplicit false

open Files (FileTree ModuleFile ScanFault)

/-! ## State -/

/-- What a run has found out so far, and its log. -/
structure RunState where
  catalogue : Catalogue
  log : List LogRecord

def RunState.start : RunState := ⟨.empty, []⟩

inductive RunFault where
  | scan (fault : ScanFault)
  | source (fault : Source.SourceFault)

def RunFault.message : RunFault → String
  | .scan (.pattern fault) => fault.message
  | .scan (.file fault) => fault.message
  | .scan (.noName fault) => fault.message
  | .source fault => fault.message.getD "invalid syntax"

/-- A step of a run. What has been found out is kept, whatever happens. -/
abbrev RunM := ExceptT RunFault (StateM RunState)

def note (level : Level) (logger message : String) : RunM Unit :=
  modify fun s => { s with log := s.log ++ [⟨level, logger, message⟩] }

def ask {α : Type} (question : StateM Catalogue α) : RunM α := do
  let s ← get
  let (a, c) := question s.catalogue
  set { s with catalogue := c }
  pure a

/-! ## Modules -/

def keepReadable (t : FileTree) (file : ModuleFile) : RunM (Option ModuleFile) := do
  if t.isReadable file.path then pure (some file)
  else
    ask (modify fun c => c.fail file.path (some "file is not readable"))
    note .warning "collector.provider"
      ("Skipping module " ++ file.relPath ++ ": file is not readable")
    pure none

/-- The source files below a root that match patterns and may be read. -/
def loadModules (t : FileTree) (root : String) (patterns : List String) : RunM (List ModuleFile) := do
  match Files.scan t root patterns with
  | .error fault => throw (.scan fault)
  | .ok files => do
    let kept ← files.mapM (keepReadable t)
    let loaded := kept.filterMap id
    note .debug "collector.provider"
      ("Found " ++ loaded.length.repr ++ " loadable modules under " ++ root)
    pure loaded

/-! ## Entry types -/

def declaredTypes (t : FileTree) (file : ModuleFile) : RunM (Except LoadFault (List Descriptor)) :=
  ask fun c => c.declaredTypes t file

def enumerate (t : FileTree) (file : ModuleFile) : RunM (List Descriptor) := do
  match ← declaredTypes t file with
  | .ok classes => pure classes
  | .error (.fatal fault) => throw (.source fault)
  | .error (.failed _ cause) => do
    note .warning "collector.entry"
      ("Skipping module " ++ file.relPath ++ ": " ++ cause.message.getD "invalid syntax")
    pure []

/-- The types among some that have an ancestor with one of the names. -/
def implementing {m : Type → Type} [Monad m] (v : Lineage m) (names : List String) :
    List Descriptor → m (List Descriptor)
  | [] => pure []
  | t :: rest => do
    let isEntry ← v.implements t names
    let more ← implementing v names rest
    pure (if isEntry then t :: more else more)

/-- The classes of all files that have one of the markers among their ancestors. All files are read before
any ancestry is looked at. -/
def collectEntryTypes (t : FileTree) (files : List ModuleFile) (markers : List String) :
    RunM TypeSet := do
  let declared ← files.mapM (enumerate t)
  let found ← ask (implementing Catalogue.lineage markers declared.flatten)
  let entries := TypeSet.ofList found
  note .debug "collector.entry"
    ("Found " ++ entries.size.repr ++ " entry types among " ++ declared.flatten.length.repr ++
      " declared types")
  pure entries

end ModelReach.Run
