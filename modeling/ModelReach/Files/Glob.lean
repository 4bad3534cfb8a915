import ModelReach.Files.Tree
import ModelReach.Files.Wildcard

/-! Patterns for paths: names, wildcards for names, and double stars for directories at any depth. -/
namespace ModelReach.Files
set_option autoImplicit false

/-! ## Patterns -/

inductive GlobPart where
  | name (name : String)
  | wildcard (pieces : List Wildcard)
  | recursive
  /-- The end of a pattern that asks for directories. -/
  | here

inductive PatternFault where
  | empty
  | absolute
  | partialRecursion
  | noParts
  | onlySlash
  deriving DecidableEq, Repr

def PatternFault.message : PatternFault → String
  | .empty => "Unacceptable pattern: ''"
  | .absolute => "Non-relative patterns are unsupported"
  | .partialRecursion => "Invalid pattern: '**' can only be an entire path component"
  | .noParts => "tuple index out of range"
  | .onlySlash => "'_TerminatingSelector' object has no attribute 'select_from'"

/-- The fault of a path without parts, which no name can be taken from. -/
structure NoName where
  path : PurePath
  deriving DecidableEq, Repr

def NoName.message (fault : NoName) : String :=
  "PosixPath(" ++ Text.quoted (Text.ofString fault.path.render) ++ ") has an empty name"

inductive ScanFault where
  | pattern (fault : PatternFault)
  | file (fault : FileFault)
  | noName (fault : NoName)
  deriving DecidableEq, Repr

def globPart (part : String) : Except PatternFault GlobPart :=
  if part = "**" then .ok .recursive
  else if Text.occursIn ['*', '*'] part.toList then .error .partialRecursion
  else if isWildcard part then .ok (.wildcard (wildcards part))
  else .ok (.name part)

def globParts (pattern : String) : Except PatternFault (List GlobPart) := do
  if pattern = "" then .error .empty
  else
    let p := PurePath.ofString pattern
    if p.root ≠ "" then .error .absolute
    else
      let isSlashed := pattern.toList.getLast? = some '/'
      let parts ← p.parts.mapM globPart
      if parts.isEmpty then .error (if isSlashed then .onlySlash else .noParts)
      else pure (if isSlashed then parts ++ [.here] else parts)

/-! ## Search -/

def isDirectoryAt (t : FileTree) (p : PurePath) : Except FileFault Bool := do
  let node ← t.stat p
  pure (node = some .directory)

/-- Is there what a part must lead to: a directory if parts follow, anything else? -/
def leadsOn (t : FileTree) (p : PurePath) (isLast : Bool) : Except FileFault Bool := do
  let node ← t.stat p
  pure (if isLast then node.isSome else node = some .directory)

def partsAt (t : FileTree) (p : PurePath) : List String :=
  match t.find p.render with
  | .ok (parts, _) => parts
  | .error _ => []

/-- May a search go on below a name in a directory, of which more parts are left? Links to directories count as
directories. -/
def entryLeadsOn (t : FileTree) (p : PurePath) (name : String) (isLast : Bool) : Except FileFault Bool :=
  if isLast then .ok true
  else match t.node? (partsAt t p ++ [name]) with
  | some (.link _) => isDirectoryAt t (p.child name)
  | node => .ok (node = some .directory)

/-- Go on from a name in a directory, if it fits. -/
def throughEntry (t : FileTree) (p : PurePath) (pieces : List Wildcard) (isLast : Bool)
    (onward : PurePath → Except FileFault (List PurePath)) (name : String) : Except FileFault (List PurePath) := do
  if ← entryLeadsOn t p name isLast then
    if matchesAll pieces name.toList then onward (p.child name) else pure []
  else pure []

/-- A path with a name that is too long is a fault, whatever it leads to. -/
def lookAt (t : FileTree) (p : PurePath) : Except FileFault Unit := (t.stat p).map fun _ => ()

def gather {α : Type} (f : α → Except FileFault (List PurePath)) (l : List α) :
    Except FileFault (List PurePath) := do
  let found ← l.mapM f
  pure found.flatten

def reached (t : FileTree) (p : PurePath) : Except FileFault (List PurePath) := do
  lookAt t p
  pure [p]

/-- What is found along the parts of a pattern. Each path is looked at, where a search ends and where a directory
is read. A double star follows no links. -/
def select (t : FileTree) : List GlobPart → PurePath → Except FileFault (List PurePath)
  | [], p => reached t p
  | .here :: _, p => reached t p
  | .name name :: rest, p => do
    if ← leadsOn t (p.child name) rest.isEmpty then select t rest (p.child name) else pure []
  | .wildcard pieces :: rest, p => do
    lookAt t p
    gather (throughEntry t p pieces rest.isEmpty (select t rest)) (t.names (partsAt t p))
  | .recursive :: rest, p => do
    let found ← select t rest p
    lookAt t p
    let more ← gather (select t rest) ((t.directoriesBelow (partsAt t p)).map p.descend)
    pure (found ++ more).eraseDups

def glob (t : FileTree) (root : PurePath) (pattern : String) :
    Except ScanFault (List PurePath) :=
  match globParts pattern with
  | .error fault => .error (.pattern fault)
  | .ok parts =>
    let found := do
      if ← isDirectoryAt t root then select t parts root else pure []
    match found with
    | .ok paths => .ok paths
    | .error fault => .error (.file fault)

end ModelReach.Files
