import ModelReach.Files.Path
import ModelReach.Text.Utf8

/-! Trees of files and directories, and the questions and changes that go by the text of a path. -/
namespace ModelReach.Files
set_option autoImplicit false

/-! ## Faults -/

inductive SystemProblem where
  | notFound
  | denied
  | alreadyExists
  | notDirectory
  | isDirectory
  | nameTooLong
  | tooManyLinks
  deriving DecidableEq, Repr

def SystemProblem.number : SystemProblem → Nat
  | .notFound => 2
  | .denied => 13
  | .alreadyExists => 17
  | .notDirectory => 20
  | .isDirectory => 21
  | .nameTooLong => 36
  | .tooManyLinks => 40

def SystemProblem.text : SystemProblem → String
  | .notFound => "No such file or directory"
  | .denied => "Permission denied"
  | .alreadyExists => "File exists"
  | .notDirectory => "Not a directory"
  | .isDirectory => "Is a directory"
  | .nameTooLong => "File name too long"
  | .tooManyLinks => "Too many levels of symbolic links"

inductive FileFault where
  | system (problem : SystemProblem) (path : String)
  /-- The text of the path holds the character zero. -/
  | nullInPath
  deriving DecidableEq, Repr

def SystemProblem.message (problem : SystemProblem) (path : Text) : String :=
  "[Errno " ++ problem.number.repr ++ "] " ++ problem.text ++ ": " ++ Text.quoted path

def FileFault.message : FileFault → String
  | .system problem path => problem.message (Text.ofString path)
  | .nullInPath => "embedded null byte"

/-! ## Trees -/

inductive Node where
  | directory
  | file (content : List Nat)
  /-- A link leads where its text does, read from the directory in which the link stands. -/
  | link (target : String)
  deriving DecidableEq, Repr

def Node.isDirectory : Node → Bool
  | .directory => true
  | _ => false

/-- All files, directories and links below the topmost directory by their parts, the working directory, and
the files that may not be read. -/
structure FileTree where
  entries : List (List String × Node)
  workDir : List String
  unreadable : List (List String)

namespace FileTree

def node? (t : FileTree) (parts : List String) : Option Node :=
  if parts = [] then some .directory else t.entries.lookup parts

def names (t : FileTree) (parts : List String) : List String :=
  t.entries.filterMap fun e => if e.1.dropLast = parts then e.1.getLast? else none

def directoriesBelow (t : FileTree) (parts : List String) : List (List String) :=
  t.entries.filterMap fun e =>
    if e.2.isDirectory && parts.isPrefixOf e.1 && parts.length < e.1.length then
      some (e.1.drop parts.length)
    else none

def put (t : FileTree) (parts : List String) (node : Node) : FileTree :=
  if t.entries.any (·.1 = parts) then
    { t with entries := t.entries.map fun e => if e.1 = parts then (parts, node) else e }
  else { t with entries := t.entries ++ [(parts, node)] }

def erase (t : FileTree) (parts : List String) : FileTree :=
  { t with entries := t.entries.filter fun e => e.1 ≠ parts }

/-! ## Resolution -/

def maxNameBytes : Nat := 255

def maxPathBytes : Nat := 4095

/-- A walk follows so many links at most. -/
def maxLinks : Nat := 40

/-- Where the text of a link is read from, if the link stands in a directory with some parts. -/
def linkStart (here : List String) (target : String) : List String := if rootOf target = "" then here else []

/-- Take steps from a directory, up to the end or to a link, from whose text on it is left to `follow`. -/
def advance {α : Type} (t : FileTree) (arrive : List String → α)
    (follow : List String → List String → Except SystemProblem α) :
    List String → List String → Except SystemProblem α
  | here, [] => .ok (arrive here)
  | here, step :: rest =>
    match t.node? here with
    | none => .error .notFound
    | some .directory =>
      if !isStep step then t.advance arrive follow here rest
      else if step = ".." then t.advance arrive follow here.dropLast rest
      else if maxNameBytes < step.utf8ByteSize then .error .nameTooLong
      else match t.node? (here ++ [step]) with
      | none => .error .notFound
      | some (.link target) => follow (linkStart here target) (slashParts target ++ rest)
      | some _ => t.advance arrive follow (here ++ [step]) rest
    | some _ => .error .notDirectory

/-- Where a walk ends that may follow some number of links, and how many of them are left. -/
def walkFrom (t : FileTree) : Nat → List String → List String → Except SystemProblem (List String × Nat)
  | 0 => t.advance (·, 0) fun _ _ => .error .tooManyLinks
  | links + 1 => t.advance (·, links + 1) (t.walkFrom links)

def walk (t : FileTree) (here steps : List String) : Except SystemProblem (List String) :=
  (t.walkFrom maxLinks here steps).map Prod.fst

def start (t : FileTree) (s : String) : List String := if rootOf s = "" then t.workDir else []

def checkText (s : String) : Except FileFault Unit :=
  if s.toList.contains '\x00' then .error .nullInPath
  else if s = "" then .error (.system .notFound s)
  else if maxPathBytes < s.utf8ByteSize then .error (.system .nameTooLong s)
  else .ok ()

def named {α : Type} (s : String) : Except SystemProblem α → Except FileFault α
  | .ok a => .ok a
  | .error problem => .error (.system problem s)

/-- The parts and the node of a path that exists; links are followed. A slash at the end asks for a
directory. -/
def find (t : FileTree) (s : String) : Except FileFault (List String × Node) := do
  checkText s
  named s (do
    let here ← t.walk (t.start s) (slashParts s)
    match t.node? here with
    | some .directory => pure (here, .directory)
    | some (.file content) =>
      if (slashParts s).getLast? = some "" then .error .notDirectory
      else pure (here, .file content)
    | _ => .error .notFound)

/-- The node of a path; none if there is nothing there. Only a name that is too long is a fault. -/
def stat (t : FileTree) (p : PurePath) : Except FileFault (Option Node) :=
  match t.find p.render with
  | .ok (_, node) => .ok (some node)
  | .error (.system .nameTooLong s) => .error (.system .nameTooLong s)
  | .error _ => .ok none

def isDirectory (t : FileTree) (s : String) : Bool :=
  match t.find s with
  | .ok (_, .directory) => true
  | _ => false

def pathExists (t : FileTree) (s : String) : Bool :=
  match t.find s with
  | .ok _ => true
  | _ => false

def isReadable (t : FileTree) (s : String) : Bool :=
  match t.find s with
  | .ok (parts, _) => !t.unreadable.contains parts
  | _ => false

def read (t : FileTree) (s : String) : Except FileFault (List Nat) := do
  match ← t.find s with
  | (parts, node) =>
    if t.unreadable.contains parts then .error (.system .denied s)
    else match node with
    | .file content => pure content
    | _ => .error (.system .isDirectory s)

/-! ## Changes -/

/-- The steps to the place that a text names for something new. A slash at the end is no step. -/
def placeSteps (s : String) : List String := (slashParts s).filter (· ≠ "")

def findParent (t : FileTree) (s : String) : Except FileFault (List String × String) := do
  checkText s
  named s (do
    let here ← t.walk (t.start s) (placeSteps s).dropLast
    match t.node? here with
    | some .directory => pure (here, (placeSteps s).getLast?.getD "")
    | none => .error .notFound
    | some _ => .error .notDirectory)

/-- Where a file is written that a text names from a directory: what stands there is replaced, and a link
is followed. -/
def filePlace (t : FileTree) : Nat → Nat → List String → String → Except SystemProblem (List String)
  | 0, _, _, _ => .error .tooManyLinks
  | rounds + 1, links, here, s => do
    let there ← t.walkFrom links here (placeSteps s).dropLast
    let last := (placeSteps s).getLast?.getD ""
    match t.node? there.1 with
    | some .directory =>
      if (slashParts s).getLast? = some "" || !isStep last || last = ".." then .error .isDirectory
      else if maxNameBytes < last.utf8ByteSize then .error .nameTooLong
      else match t.node? (there.1 ++ [last]) with
      | some .directory => .error .isDirectory
      | some (.link target) =>
        if there.2 = 0 then .error .tooManyLinks
        else t.filePlace rounds (there.2 - 1) (linkStart there.1 target) target
      | _ => pure (there.1 ++ [last])
    | none => .error .notFound
    | some _ => .error .notDirectory

def write (t : FileTree) (s : String) (content : List Nat) : Except FileFault FileTree := do
  checkText s
  let place ← named s (t.filePlace (maxLinks + 1) maxLinks (t.start s) s)
  pure (t.put place (.file content))

def makeDirectory (t : FileTree) (p : PurePath) : Except FileFault FileTree :=
  let s := p.render
  if p.parts = [] then .error (.system .alreadyExists s)
  else do
    let (here, last) ← t.findParent s
    if last = ".." then .error (.system .alreadyExists s)
    else if maxNameBytes < last.utf8ByteSize then .error (.system .nameTooLong s)
    else match t.node? (here ++ [last]) with
    | some _ => .error (.system .alreadyExists s)
    | none => pure (t.put (here ++ [last]) .directory)

def settleDirectory (t : FileTree) (p : PurePath) : FileTree × Except FileFault Unit :=
  match t.makeDirectory p with
  | .ok t => (t, .ok ())
  | .error fault => (t, if t.isDirectory p.render then .ok () else .error fault)

/-- Make a directory and the missing ones above it; its parts stand in reverse. What has been made stays,
whatever follows, and something found in place of a directory above is left to later steps. -/
def makeDirectories (root : String) : List String → FileTree → FileTree × Except FileFault Unit
  | [], t => t.settleDirectory ⟨root, []⟩
  | name :: above, t =>
    let p : PurePath := ⟨root, (name :: above).reverse⟩
    if t.pathExists (PurePath.render ⟨root, above.reverse⟩) then t.settleDirectory p
    else match makeDirectories root above t with
    | (t, .ok ()) => t.settleDirectory p
    | (t, .error (.system .alreadyExists _)) => t.settleDirectory p
    | (t, .error fault) => (t, .error fault)

end FileTree
end ModelReach.Files
