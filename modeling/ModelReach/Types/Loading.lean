import ModelReach.Facts.Module
import ModelReach.Files.Scan
import ModelReach.Types.Catalogue

/-! Loading modules into the catalogue, each file once. A file that cannot be read or parsed is noted as a
failure and leaves everything else as it is. -/
namespace ModelReach
set_option autoImplicit false

open Files (FileTree FileFault ModuleFile ScanFault)

/-! ## Faults -/

inductive LoadCause where
  | file (fault : FileFault)
  | encoding (fault : Text.Utf8Fault)
  | source (fault : Source.SourceFault)

/-- The wording of a cause; a text against the grammar has none. -/
def LoadCause.message : LoadCause → Option String
  | .file fault => some fault.message
  | .encoding fault => some fault.message
  | .source fault => fault.message

def LoadCause.isLoadFailure : LoadCause → Bool
  | .source fault => fault.isLoadFailure
  | _ => true

/-- Why the classes of a file are not available: the file failed to load, or a fault ends the run. -/
inductive LoadFault where
  | failed (path : String) (cause : LoadCause)
  | fatal (fault : Source.SourceFault)

/-! ## Facts -/

def readFacts (t : FileTree) (file : ModuleFile) : Except LoadCause ModuleFacts :=
  match t.read file.path with
  | .error fault => .error (.file fault)
  | .ok bytes =>
    match Text.ofUtf8 bytes with
    | .error fault => .error (.encoding fault)
    | .ok text =>
      match Facts.ofText file.module file.path file.isPackage text.lineFeeds with
      | .error fault => .error (.source fault)
      | .ok facts => .ok facts

/-! ## Classes -/

namespace Catalogue

/-- The classes of a file. The first time the file is read and its classes are registered; after that
the answer is what is registered for its module. -/
def declaredTypes (t : FileTree) (file : ModuleFile) (c : Catalogue) :
    Except LoadFault (List Descriptor) × Catalogue :=
  match c.modules.lookup file.path with
  | some module => (.ok (c.classesOf module), c)
  | none =>
    match readFacts t file with
    | .ok facts =>
      let c := c.register facts
      (.ok (c.classesOf facts.module), c)
    | .error (.source fault) =>
      if fault.isLoadFailure then
        (.error (.failed file.path (.source fault)), c.fail file.path fault.message)
      else (.error (.fatal fault), c)
    | .error cause => (.error (.failed file.path cause), c.fail file.path cause.message)

end Catalogue
end ModelReach
