import ModelReach.Run.Arguments
import ModelReach.Run.Summary

/-! The command line: what the program prints, with which code it ends, and what it leaves behind. -/
namespace ModelReach.Run
set_option autoImplicit false

open Files (FileTree)

/-! ## Commands -/

def programName : String := "modelcollect"

def oneName (name : String) (action : OptionAction) : OptionSpec := ⟨[name], action⟩

def collectCommand : CommandSpec where
  name := "collect"
  options :=
    [oneName "--config" (.store "config"), oneName "--source" (.store "source"),
     oneName "--module" (.append "modules"), oneName "--destination" (.store "destination"),
     oneName "--marker" (.append "entry_markers"),
     oneName "--ignore-marker" (.store "ignore_marker"), oneName "--verbose" (.flag "verbose")]

def serveCommand : CommandSpec where
  name := "serve"
  options :=
    [oneName "--host" (.store "host"), oneName "--port" (.storeNumber "port"),
     oneName "--reload" (.flag "reload")]

inductive Request where
  | help
  | refused (program : String) (fault : ArgumentFault)
  | network
  | collect (config : Option Text) (overrides : Validation.Fields)

def Request.ofArguments (arguments : List String) : Request :=
  match parseArguments programName "cmd" [collectCommand, serveCommand] arguments with
  | .help => .help
  | .refused program fault => .refused program fault
  | .command name fields =>
    if name = serveCommand.name then .network
    else match Json.field? fields "config" with
    | some (.text path) => .collect (some path) fields
    | _ => .collect none fields

/-- The paths that a request refers to: those of single files, and those of directories that are looked
at with all that is in them. -/
structure PathUse where
  files : List String
  directories : List String

/-- The paths that a request refers to, as far as the files known so far tell. -/
def Request.paths (t : FileTree) : Request → PathUse
  | .collect config overrides =>
    let files := config.toList.map Text.toString
    match loadOptions t config overrides with
    | .ok options => ⟨files ++ [options.destination], [options.scan.source]⟩
    | .error (.noSource source) => ⟨files, [source.toString]⟩
    | .error _ => ⟨files, []⟩
  | _ => ⟨[], []⟩

/-! ## Outcomes -/

inductive CommandOutcome where
  | help
  | refused (program : String) (fault : ArgumentFault)
  | badOptions (fault : OptionsFault)
  | ran (verbose : Bool) (outcome : RunOutcome)
  | network

def Request.run (t : FileTree) (o : SetOrder) : Request → CommandOutcome
  | .help => .help
  | .refused program fault => .refused program fault
  | .network => .network
  | .collect config overrides =>
    match loadOptions t config overrides with
    | .error fault => .badOptions fault
    | .ok options => .ran options.scan.verbose (Run.run t options o)

def runCommand (t : FileTree) (arguments : List String) (o : SetOrder) : CommandOutcome :=
  (Request.ofArguments arguments).run t o

/-- What is printed, and the code at the end. -/
structure Printed where
  code : Nat
  out : List String
  err : List String
  log : List LogRecord

def refusalLine (program : String) (fault : ArgumentFault) : String :=
  program ++ ": error: " ++ fault.message

inductive BrokenOff where
  | options (fault : OptionsFault)
  | run (fault : RunFault)
  | artifact (fault : ArtifactFault)

def BrokenOff.message : BrokenOff → String
  | .options fault => fault.message
  | .run fault => fault.message
  | .artifact fault => fault.message

/-- What an outcome prints, with the time that the run took in milliseconds. -/
def CommandOutcome.print (elapsed : String) : CommandOutcome → Except BrokenOff Printed
  | .help | .network => .ok ⟨0, [], [], []⟩
  | .refused program fault => .ok ⟨2, [], [refusalLine program fault], []⟩
  | .badOptions fault =>
    if fault.isConfiguration then .ok ⟨2, [], ["Configuration error: " ++ fault.message], []⟩
    else .error (.options fault)
  | .ran verbose outcome =>
    let log := outcome.log.filter (·.isShown verbose)
    match outcome.result with
    | .ok result => .ok ⟨0, summaryLines result verbose elapsed, [], log⟩
    | .error (.run fault) => .error (.run fault)
    | .error (.artifact fault) =>
      if fault.isOutput then .ok ⟨1, [], ["Output error: " ++ fault.message], log⟩
      else .error (.artifact fault)

/-- The files after a command, given those before. -/
def CommandOutcome.tree (before : FileTree) : CommandOutcome → FileTree
  | .ran _ outcome => outcome.tree
  | _ => before

end ModelReach.Run
