import ModelReach.Text.Basic

/-! Dotted names: parts joined by points. -/
namespace ModelReach
set_option autoImplicit false

namespace Dotted

/-- A name cut at its last point: what stands before it and after it. A name without a point has no
part before. -/
def cutLast (name : List Char) : Option (List Char × List Char) :=
  let tail := (name.reverse.takeWhile (· != '.')).reverse
  match (name.reverse.dropWhile (· != '.')) with
  | [] => none
  | _ :: before => some (before.reverse, tail)

def cutFirst (name : List Char) : List Char × List Char :=
  (name.takeWhile (· != '.'), (name.dropWhile (· != '.')).drop 1)

/-- What stands before the last point; empty if there is none. -/
def parent (name : String) : String :=
  match cutLast name.toList with
  | some (before, _) => String.ofList before
  | none => ""

/-- What stands after the last point; the whole name if there is none. -/
def lastPart (name : String) : String :=
  match cutLast name.toList with
  | some (_, after) => String.ofList after
  | none => name

def head (name : String) : String := String.ofList (cutFirst name.toList).1

/-- What stands after the first point; empty if there is none. -/
def rest (name : String) : String := String.ofList (cutFirst name.toList).2

/-- Join a name and a further name by a point, unless one of them is empty. -/
def join (name more : String) : String :=
  if name = "" then more else if more = "" then name else name ++ "." ++ more

def parts (name : String) : List String :=
  if name = "" then [] else (Text.pieces '.' name.toList).map String.ofList

end Dotted
end ModelReach
