import ModelReach.Run.Collect

/-! Collections on request, over any source directory. -/
namespace ModelReach.Run
set_option autoImplicit false

open Files (FileTree)

inductive ServiceAnswer where
  | invalidSource (path : String)
  | done (result : Except RunFault RunResult)

def ServiceAnswer.detail? : ServiceAnswer → Option String
  | .invalidSource path => some ("Invalid source: " ++ path)
  | .done _ => none

/-- Collect from the absolute path of the source, if it is a directory. -/
def serve (t : FileTree) (options : ScanOptions) (o : SetOrder) : ServiceAnswer :=
  let root := (Files.absolute t.workDir options.source).render
  if t.isDirectory root then .done (collectFrom t { options with source := root } o).1
  else .invalidSource root

end ModelReach.Run
