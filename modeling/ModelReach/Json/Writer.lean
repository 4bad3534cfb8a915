import ModelReach.Decimal.Layout
import ModelReach.Json.Basic
import ModelReach.Source.Fault
import ModelReach.Text.Quoted

/-! Writing JSON in ASCII, indented by two blanks for each level. -/
namespace ModelReach.Json
set_option autoImplicit false

/-! ## Leaves -/

/-- Numbers as plain decimals, infinite ones by name. -/
def jsonLayout : Binary64.NumberLayout :=
  { Binary64.plainLayout with infinity := "Infinity", nan := "NaN" }

def unitEscape (n : Nat) : List Char := '\\' :: 'u' :: Text.hexDigits 4 n

/-- A code point inside a string: printable ASCII characters as they are, others as escapes, those above
the basic plane as two. -/
def charImage (c : Nat) : List Char :=
  if c = 34 then ['\\', '"']
  else if c = 92 then ['\\', '\\']
  else if c = 10 then ['\\', 'n']
  else if c = 13 then ['\\', 'r']
  else if c = 9 then ['\\', 't']
  else if c = 12 then ['\\', 'f']
  else if c = 8 then ['\\', 'b']
  else if 32 ≤ c ∧ c ≤ 126 then [Text.charOf c]
  else if c < 0x10000 then unitEscape c
  else
    let n := c - 0x10000
    unitEscape (0xD800 + n / 0x400) ++ unitEscape (0xDC00 + n % 0x400)

def textImage (t : Text) : List Char := '"' :: t.flatMap charImage ++ ['"']

def integerImage (n : Int) : Except Source.SourceFault (List Char) := do
  let digits ← Source.writeInteger n.natAbs
  pure ((if n < 0 then ['-'] else []) ++ digits.toList)

/-! ## Values -/

def newLine (level : Nat) : List Char := '\n' :: List.replicate (2 * level) ' '

def bracketed (opening closing : Char) (level : Nat) (images : List (List Char)) : List Char :=
  if images.isEmpty then [opening, closing]
  else
    opening :: newLine (level + 1) ++ (',' :: newLine (level + 1)).intercalate images ++
      newLine level ++ [closing]

mutual

def image (level : Nat) : Json → Except Source.SourceFault (List Char)
  | .null => .ok "null".toList
  | .bool b => .ok (if b then "true".toList else "false".toList)
  | .int n => integerImage n
  | .float x => .ok (jsonLayout.render x).toList
  | .text t => .ok (textImage t)
  | .array items => do
    let images ← itemImages (level + 1) items
    pure (bracketed '[' ']' level images)
  | .object fields => do
    let images ← fieldImages (level + 1) fields
    pure (bracketed '\x7b' '\x7d' level images)

def itemImages (level : Nat) : List Json → Except Source.SourceFault (List (List Char))
  | [] => .ok []
  | v :: rest => do
    let first ← image level v
    let more ← itemImages level rest
    pure (first :: more)

def fieldImages (level : Nat) : List (Text × Json) → Except Source.SourceFault (List (List Char))
  | [] => .ok []
  | (name, v) :: rest => do
    let first ← image level v
    let more ← fieldImages level rest
    pure ((textImage name ++ ':' :: ' ' :: first) :: more)

end

def render (v : Json) : Except Source.SourceFault String := do
  let cs ← image 0 v
  pure (String.ofList cs)

end ModelReach.Json
