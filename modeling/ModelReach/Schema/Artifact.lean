import ModelReach.Files.Tree
import ModelReach.Schema.Document

/-! Writing the artifact to a file. -/
namespace ModelReach
set_option autoImplicit false

open Files (FileTree FileFault PurePath)

inductive ArtifactFault where
  | file (path : String) (fault : FileFault)
  | number (fault : Source.SourceFault)

/-- The wording of a fault. Only what the system refuses is told as a fault of the output. -/
def ArtifactFault.message : ArtifactFault → String
  | .file path (.system problem p) =>
    "cannot write " ++ path ++ ": " ++ FileFault.message (.system problem p)
  | .file _ .nullInPath => FileFault.message .nullInPath
  | .number fault => fault.message.getD ""

def ArtifactFault.isOutput : ArtifactFault → Bool
  | .file _ (.system _ _) => true
  | _ => false

def asciiBytes (s : String) : List Nat := s.toList.map Char.toNat

def writeArtifact (t : FileTree) (path : String) (documents : List Document) :
    FileTree × Except ArtifactFault Unit :=
  let target := Files.absolute t.workDir path
  match FileTree.makeDirectories target.root (target.parts.dropLast).reverse t with
  | (t, .error fault) => (t, .error (.file path fault))
  | (t, .ok ()) =>
    match artifactText documents with
    | .ok text =>
      match t.write path (asciiBytes text) with
      | .ok t => (t, .ok ())
      | .error fault => (t, .error (.file path fault))
    | .error fault =>
      match t.write path [] with
      | .ok t => (t, .error (.number fault))
      | .error fault => (t, .error (.file path fault))

end ModelReach
