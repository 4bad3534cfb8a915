import ModelReach.Text.Basic

/-! Paths by their text alone: parts between slashes, absolute forms and relative forms. -/
namespace ModelReach.Files
set_option autoImplicit false

/-! ## Parts -/

/-- A path without empty parts and points: what it starts with (nothing, one slash or two) and its
parts. Steps to the parent are kept. -/
structure PurePath where
  root : String
  parts : List String
  deriving DecidableEq, Repr

def slashParts (s : String) : List String := (Text.pieces '/' s.toList).map String.ofList

/-- What a path starts with: exactly two slashes mean something else than one or many. -/
def rootOf (s : String) : String :=
  match s.toList with
  | '/' :: '/' :: '/' :: _ => "/"
  | '/' :: '/' :: _ => "//"
  | '/' :: _ => "/"
  | _ => ""

def isStep (part : String) : Bool := part ≠ "" && part ≠ "."

namespace PurePath

def ofString (s : String) : PurePath := ⟨rootOf s, (slashParts s).filter isStep⟩

def render (p : PurePath) : String :=
  if p.root = "" && p.parts.isEmpty then "." else p.root ++ "/".intercalate p.parts

def child (p : PurePath) (name : String) : PurePath := { p with parts := p.parts ++ [name] }

def descend (p : PurePath) (names : List String) : PurePath :=
  { p with parts := p.parts ++ names }

def name? (p : PurePath) : Option String := p.parts.getLast?

end PurePath

/-! ## File names -/

/-- A file name cut before its last point, if characters stand on both sides of it. -/
def cutSuffix (name : String) : String × String :=
  let cs := name.toList
  let tail := (cs.reverse.takeWhile (· != '.')).reverse
  let stem := cs.take (cs.length - tail.length - 1)
  if tail.isEmpty || stem.isEmpty then (name, "")
  else (String.ofList stem, String.ofList ('.' :: tail))

/-! ## Absolute and relative paths -/

/-- Take steps to the parent from a list of parts. -/
def normalize (parts : List String) : List String :=
  parts.foldl (fun done part =>
    if part = ".." then done.dropLast else if isStep part then done ++ [part] else done) []

def beforeNull (s : String) : String := String.ofList (s.toList.takeWhile (· != '\x00'))

/-- The parts of a path from the topmost directory on, for a working directory. -/
def absoluteParts (workDir : List String) (p : PurePath) : List String :=
  normalize (if p.root = "" then workDir ++ p.parts else p.parts)

/-- The absolute form of a text. It ends at the first character zero. -/
def absolute (workDir : List String) (s : String) : PurePath :=
  let p := PurePath.ofString (beforeNull s)
  ⟨if p.root = "" then "/" else p.root, absoluteParts workDir p⟩

def dropCommon : List String → List String → List String × List String
  | a :: as, b :: bs => if a = b then dropCommon as bs else (a :: as, b :: bs)
  | as, bs => (as, bs)

def relativeParts (start target : List String) : List String :=
  let (up, down) := dropCommon start target
  up.map (fun _ => "..") ++ down

def relativePath (workDir : List String) (start p : PurePath) : PurePath :=
  ⟨"", relativeParts (absoluteParts workDir start) (absoluteParts workDir p)⟩

end ModelReach.Files
