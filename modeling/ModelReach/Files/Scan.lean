import ModelReach.Files.Glob

/-! The source files below a root, and the names of their modules. -/
namespace ModelReach.Files
set_option autoImplicit false

/-! ## Module names -/

def ignoredDirectories : List String :=
  [".git", ".venv", "venv", "node_modules", "dist", "build", "__pycache__"]

/-- A name without dashes, which no module name may hold. -/
def withoutDashes (s : String) : String :=
  String.ofList (s.toList.map fun c => if c = '-' then '_' else c)

def withoutSuffix (parts : List String) : List String :=
  match parts.getLast? with
  | some name => parts.dropLast ++ [(cutSuffix name).1]
  | none => []

/-- Name the module of parts without a suffix: a package's own file names the package. Files in ignored
directories have no module. -/
def moduleOfParts (parts : List String) : Option String :=
  if parts.dropLast.any ignoredDirectories.contains then none
  else
    let parts := if parts.getLast? = some "__init__" then parts.dropLast else parts
    some (".".intercalate (parts.map withoutDashes))

def moduleOfPath (p : PurePath) : Except NoName (Option String) :=
  if p.parts = [] then .error ⟨p⟩
  else
    let root := if p.root = "" then [] else [p.root]
    .ok (moduleOfParts (root ++ withoutSuffix p.parts))

/-! ## Scans -/

/-- A source file: its path as found, its path relative to the root, its module, and whether it is a
package's own file. -/
structure ModuleFile where
  path : String
  relPath : String
  module : String
  isPackage : Bool
  deriving DecidableEq, Repr

def isSourceFile (t : FileTree) (p : PurePath) : Bool :=
  (p.name?.any fun name => (cutSuffix name).2 = ".py") &&
    match t.stat p with
    | .ok (some (.file _)) => true
    | _ => false

def moduleFile? (t : FileTree) (root p : PurePath) : Option ModuleFile :=
  if isSourceFile t p then
    let rel := relativePath t.workDir root p
    match moduleOfPath rel with
    | .ok (some module) =>
      if module = "" then none
      else some ⟨p.render, rel.render, module, p.name? = some "__init__.py"⟩
    | _ => none
  else none

/-- A source file without a name below the root: there a link leads back to the path of the root itself. -/
def isNameless (t : FileTree) (root p : PurePath) : Bool :=
  isSourceFile t p && (relativePath t.workDir root p).parts.isEmpty

def checkNames (t : FileTree) (root : PurePath) (found : List PurePath) : Except ScanFault (List PurePath) :=
  match found.find? (isNameless t root) with
  | some p => .error (.noName ⟨relativePath t.workDir root p⟩)
  | none => .ok found

/-- What a pattern finds, if all source files among it have names. -/
def seek (t : FileTree) (root : PurePath) (pattern : String) : Except ScanFault (List PurePath) := do
  let found ← glob t root pattern
  checkNames t root found

def distinctFiles (files : List ModuleFile) : List ModuleFile :=
  files.foldl (fun done f => if done.any (·.relPath = f.relPath) then done else done ++ [f]) []

def scan (t : FileTree) (root : String) (patterns : List String) :
    Except ScanFault (List ModuleFile) := do
  let root := PurePath.ofString root
  let found ← patterns.mapM (seek t root)
  let files := distinctFiles (found.flatten.filterMap (moduleFile? t root))
  pure (files.mergeSort fun a b => a.relPath ≤ b.relPath)

end ModelReach.Files
