import ModelReach.Text.Quoted

/-! UTF-8: from bytes to text, with the place and the kind of the first fault, and back. -/
namespace ModelReach.Text
set_option autoImplicit false

/-! ## Reading -/

inductive Utf8Problem where
  | invalidStart
  | invalidContinuation
  | unexpectedEnd
  deriving DecidableEq, Repr

/-- A fault: the position and values of the bytes that are no part of a character. -/
structure Utf8Fault where
  position : Nat
  bytes : List Nat
  problem : Utf8Problem
  deriving DecidableEq, Repr

def inRange (lo hi b : Nat) : Bool := lo ≤ b && b ≤ hi

/-- The range of the second byte after a first byte, and the number of bytes after the first; none for
a byte that begins no character of several bytes. Overlong forms, surrogates and numbers above the last
code point have no second byte. -/
def leadByte? (b : Nat) : Option ((Nat × Nat) × Nat) :=
  if inRange 0xC2 0xDF b then some ((0x80, 0xBF), 1)
  else if b = 0xE0 then some ((0xA0, 0xBF), 2)
  else if b = 0xED then some ((0x80, 0x9F), 2)
  else if inRange 0xE1 0xEF b then some ((0x80, 0xBF), 2)
  else if b = 0xF0 then some ((0x90, 0xBF), 3)
  else if b = 0xF4 then some ((0x80, 0x8F), 3)
  else if inRange 0xF1 0xF3 b then some ((0x80, 0xBF), 3)
  else none

/-- The bytes after the first that belong to one character, at most `n`: the first of them in the given
range, the others in the general one. -/
def continuation (range : Nat × Nat) : Nat → List Nat → List Nat
  | 0, _ => []
  | _, [] => []
  | n + 1, b :: rest =>
    if inRange range.1 range.2 b then b :: continuation (0x80, 0xBF) n rest else []

def combine (lead : Nat) (tail : List Nat) : Nat :=
  let mask := match tail.length with
    | 1 => 0x20
    | 2 => 0x10
    | _ => 0x08
  tail.foldl (fun n b => n * 64 + b % 64) (lead % mask)

/-- Read characters from a position on. Each takes at least one byte. -/
def decodeFrom : Nat → Nat → List Nat → Except Utf8Fault Text
  | 0, _, _ => .ok []
  | _, _, [] => .ok []
  | fuel + 1, position, b :: rest =>
    if b < 0x80 then (decodeFrom fuel (position + 1) rest).map (b :: ·)
    else match leadByte? b with
    | none => .error ⟨position, [b], .invalidStart⟩
    | some (range, n) =>
      let tail := continuation range n rest
      if tail.length = n then
        (decodeFrom fuel (position + 1 + n) (rest.drop n)).map (combine b tail :: ·)
      else if tail.length = rest.length then .error ⟨position, b :: tail, .unexpectedEnd⟩
      else .error ⟨position, b :: tail, .invalidContinuation⟩

/-- The text that bytes encode, or the first fault in them. -/
def ofUtf8 (bytes : List Nat) : Except Utf8Fault Text := decodeFrom bytes.length 0 bytes

/-! ## Writing -/

def encodeOne (c : Nat) : List Nat :=
  if c < 0x80 then [c]
  else if c < 0x800 then [0xC0 + c / 64, 0x80 + c % 64]
  else if c < 0x10000 then [0xE0 + c / 4096, 0x80 + c / 64 % 64, 0x80 + c % 64]
  else [0xF0 + c / 262144, 0x80 + c / 4096 % 64, 0x80 + c / 64 % 64, 0x80 + c % 64]

def toUtf8 (t : Text) : List Nat := t.flatMap encodeOne

/-- Why a text cannot be written: it holds surrogates that stand alone, in a run that begins at a position. -/
structure LoneSurrogates where
  position : Nat
  run : List Nat
  deriving DecidableEq, Repr

/-! ## Messages -/

def LoneSurrogates.message (f : LoneSurrogates) : String :=
  let place := match f.run with
    | [c] => "character '" ++ String.ofList (escaped c) ++ "' in position " ++ f.position.repr
    | cs => "characters in position " ++ f.position.repr ++ "-" ++ (f.position + cs.length - 1).repr
  "'utf-8' codec can't encode " ++ place ++ ": surrogates not allowed"

def Utf8Problem.message : Utf8Problem → String
  | .invalidStart => "invalid start byte"
  | .invalidContinuation => "invalid continuation byte"
  | .unexpectedEnd => "unexpected end of data"

def Utf8Fault.message (f : Utf8Fault) : String :=
  let place := match f.bytes with
    | [b] => "byte 0x" ++ String.ofList (hex b) ++ " in position " ++ f.position.repr
    | bs => "bytes in position " ++ f.position.repr ++ "-" ++
        (f.position + bs.length - 1).repr
  "'utf-8' codec can't decode " ++ place ++ ": " ++ f.problem.message
where
  hex (b : Nat) : List Char := Nat.toDigits 16 (b / 16) ++ Nat.toDigits 16 (b % 16)

end ModelReach.Text
