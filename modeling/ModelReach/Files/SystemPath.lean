import ModelReach.Files.Tree

/-! Texts as paths of the system, which are bytes. Some of the surrogates that may stand alone in a text stand for
bytes; no path has the others. -/
namespace ModelReach.Files
set_option autoImplicit false

/-! ## Bytes -/

/-- The byte that a surrogate stands for, if it is one of those that do. -/
def escapedByte? (c : Nat) : Option Nat := if 0xDC80 ≤ c && c ≤ 0xDCFF then some (c - 0xDC00) else none

def isUnencodable (c : Nat) : Bool := Text.isSurrogate c && (escapedByte? c).isNone

/-- The first surrogate that stands for no byte, with those that follow it at once. -/
def unencodable? (path : Text) : Option Text.LoneSurrogates :=
  (path.zipIdx.find? fun p => isUnencodable p.1).map fun p =>
    ⟨p.2, (path.drop p.2).takeWhile Text.isSurrogate⟩

def encodeInPath (c : Nat) : List Nat :=
  match escapedByte? c with
  | some b => [b]
  | none => Text.encodeOne c

def pathBytes (path : Text) : List Nat := path.flatMap encodeInPath

/-! ## Paths -/

inductive PathFault where
  | unencodable (fault : Text.LoneSurrogates)
  | null
  deriving DecidableEq, Repr

def PathFault.message : PathFault → String
  | .unencodable fault => fault.message
  | .null => FileFault.message .nullInPath

/-- The path that a text stands for; none if its bytes are no text, as all names in a tree are. -/
def systemPath (path : Text) : Except PathFault (Option String) :=
  match unencodable? path with
  | some fault => .error (.unencodable fault)
  | none =>
    if path.contains 0 then .error .null
    else .ok ((Text.ofUtf8 (pathBytes path)).toOption.map Text.toString)

/-- Does a text stand for the path of a directory? -/
def FileTree.isDirectoryText (t : FileTree) (path : Text) : Bool :=
  match systemPath path with
  | .ok (some s) => t.isDirectory s
  | _ => false

end ModelReach.Files
