import ModelReach.Source.Token
import ModelReach.Text.RangeTable

/-! Numeric literals: decimal integers with at most 4300 digits, integers in base 2, 8 and 16, floats
and imaginary numbers, with single underscores between digits. -/
namespace ModelReach.Source
set_option autoImplicit false

/-! ## Digits -/

def isDigit (c : Char) : Bool := '0' ≤ c && c ≤ '9'

/-- Can a character stand inside a name? Those above ASCII count until the whole name is known. -/
def isNameChar (c : Char) : Bool := c.isAlphanum || c == '_' || 128 ≤ c.toNat

/-- The digits at the front of a text, with single underscores between them passed over. The first
character is a digit; an underscore that no digit follows is a fault. -/
def digitRun (isDigit : Char → Bool) : List Char → Option (List Char × List Char)
  | [] => some ([], [])
  | '_' :: c :: rest =>
    if isDigit c then (digitRun isDigit rest).map fun r => (c :: r.1, r.2) else none
  | '_' :: [] => none
  | c :: rest =>
    if isDigit c then (digitRun isDigit rest).map fun r => (c :: r.1, r.2) else some ([], c :: rest)

def digitsValue (base : Nat) (ds : List Char) : Nat :=
  ds.foldl (fun n c => n * base + (Text.hexDigit? c).getD 0) 0

/-! ## The end of a literal -/

def startsWord (word : List Char) (cs : List Char) : Bool :=
  word.isPrefixOf cs && !((cs.drop word.length).head?.any isNameChar)

/-- May a numeric literal end before this text? A name may not follow at once, but some keywords may. -/
def numberEnds (cs : List Char) : Bool :=
  match cs with
  | [] => true
  | c :: rest =>
    !isNameChar c || startsWord "and".toList cs || startsWord "else".toList cs ||
      startsWord "for".toList cs || startsWord "or".toList cs ||
      (c == 'i' && (rest.head?.any fun d => d == 'f' || d == 'n' || d == 's'))

def finishNumber (value : Constant) (rest : List Char) : Option (Constant × List Char) :=
  if numberEnds rest then some (value, rest) else none

/-! ## Floats -/

def maxDecimalDigits : Nat := 4300

/-- The parts of a decimal literal: the digits before and after the point, the exponent, and whether
there was a point or an exponent. -/
structure DecimalParts where
  whole : List Char
  fraction : List Char
  exponent : Int
  isFloat : Bool

def DecimalParts.value (p : DecimalParts) : Binary64 :=
  .ofDecimal false (digitsValue 10 (p.whole ++ p.fraction)) (p.exponent - p.fraction.length)

def exponentPart (cs : List Char) : Option (Option (Int × List Char)) :=
  let digits (negative : Bool) (cs : List Char) : Option (Option (Int × List Char)) :=
    (digitRun isDigit cs).map fun r =>
      let n : Int := digitsValue 10 r.1
      some (if negative then -n else n, r.2)
  match cs with
  | '+' :: c :: rest => if isDigit c then digits false (c :: rest) else none
  | '-' :: c :: rest => if isDigit c then digits true (c :: rest) else none
  | ['+'] | ['-'] => none
  | c :: rest => if isDigit c then digits false (c :: rest) else some none
  | [] => some none

def finishDecimal (p : DecimalParts) (rest : List Char) : Option (Constant × List Char) :=
  match rest with
  | 'j' :: rest | 'J' :: rest => finishNumber (.imaginary p.value) rest
  | _ =>
    if p.isFloat then finishNumber (.float p.value) rest
    else if maxDecimalDigits < p.whole.length && p.whole.any (· != '0') then none
    else finishNumber (.int (digitsValue 10 p.whole)) rest

/-- Read the exponent, if there is one, and finish. A letter `e` without digits belongs to the next
word. -/
def afterFraction (p : DecimalParts) (cs : List Char) : Option (Constant × List Char) :=
  match cs with
  | [] => finishDecimal p []
  | c :: rest =>
    if c == 'e' || c == 'E' then
      match exponentPart rest with
      | none => none
      | some (some (e, rest)) => finishDecimal { p with exponent := e, isFloat := true } rest
      | some none =>
        finishNumber (if p.isFloat then .float p.value else .int (digitsValue 10 p.whole)) cs
    else finishDecimal p cs

def afterWhole (whole : List Char) (cs : List Char) : Option (Constant × List Char) :=
  match cs with
  | '.' :: c :: rest =>
    if isDigit c then do
      let (fraction, rest) ← digitRun isDigit (c :: rest)
      afterFraction ⟨whole, fraction, 0, true⟩ rest
    else afterFraction ⟨whole, [], 0, true⟩ (c :: rest)
  | ['.'] => afterFraction ⟨whole, [], 0, true⟩ []
  | _ => afterFraction ⟨whole, [], 0, false⟩ cs

/-! ## Literals -/

/-- An integer in another base, after its mark; an underscore may come first. -/
def basedInteger (base : Nat) (isDigit : Char → Bool) (cs : List Char) :
    Option (Constant × List Char) := do
  let cs := match cs with
    | '_' :: rest => rest
    | _ => cs
  guard (cs.head?.any isDigit)
  let (ds, rest) ← digitRun isDigit cs
  finishNumber (.int (digitsValue base ds)) rest

/-- Read the numeric literal that a text begins with: a digit, or a point and a digit. An integer that
starts with a zero is zero. -/
def readNumber (cs : List Char) : Option (Constant × List Char) :=
  match cs with
  | '.' :: _ => afterWhole [] cs
  | '0' :: 'x' :: rest | '0' :: 'X' :: rest =>
    basedInteger 16 (fun c => (Text.hexDigit? c).isSome) rest
  | '0' :: 'o' :: rest | '0' :: 'O' :: rest => basedInteger 8 (fun c => '0' ≤ c && c < '8') rest
  | '0' :: 'b' :: rest | '0' :: 'B' :: rest => basedInteger 2 (fun c => c == '0' || c == '1') rest
  | _ => do
    let (whole, rest) ← digitRun isDigit cs
    let (value, rest') ← afterWhole whole rest
    match value with
    | .int n => guard (n == 0 || whole.head? != some '0')
    | _ => pure ()
    pure (value, rest')

end ModelReach.Source
