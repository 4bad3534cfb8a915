import ModelReach.Source.Number
import ModelReach.Text.CharacterName

/-! What the characters between the quotes of a literal stand for. -/
namespace ModelReach.Source
set_option autoImplicit false

def simpleEscape? (c : Char) : Option Nat :=
  match c with
  | '\\' | '\'' | '"' => some c.toNat
  | 'a' => some 7
  | 'b' => some 8
  | 'f' => some 12
  | 'n' => some 10
  | 'r' => some 13
  | 't' => some 9
  | 'v' => some 11
  | _ => none

def isOctalDigit (c : Char) : Bool := '0' ≤ c && c < '8'

def hexDigits? (n : Nat) (cs : List Char) : Option (Nat × List Char) :=
  let ds := cs.take n
  if ds.length = n ∧ ds.all fun d => (Text.hexDigit? d).isSome then
    some (digitsValue 16 ds, cs.drop n)
  else none

def namedCharacter? (cs : List Char) : Option (Nat × List Char) :=
  match cs with
  | '\x7b' :: rest =>
    let word := rest.takeWhile (· != '\x7d')
    match rest.dropWhile (· != '\x7d') with
    | _ :: rest => (Text.characterNamed? word).map fun c => (c, rest)
    | [] => none
  | _ => none

/-- What follows a backslash: the text that the escape stands for and the rest. An escape that is not
known keeps its backslash. Bytes have no escapes for characters by number or name, and keep the low
eight bits of an octal escape. -/
def readEscape (isBytes : Bool) (c : Char) (rest : List Char) : Option (Text × List Char) :=
  match simpleEscape? c with
  | some n => some ([n], rest)
  | none =>
    if c = '\n' then some ([], rest)
    else if isOctalDigit c then
      let ds := c :: (rest.take 2).takeWhile isOctalDigit
      let n := digitsValue 8 ds
      some ([if isBytes then n % 256 else n], rest.drop (ds.length - 1))
    else if c = 'x' then (hexDigits? 2 rest).map fun r => ([r.1], r.2)
    else if isBytes then some (['\\'.toNat, c.toNat], rest)
    else if c = 'u' then (hexDigits? 4 rest).map fun r => ([r.1], r.2)
    else if c = 'U' then
      (hexDigits? 8 rest).bind fun r => if r.1 < 0x110000 then some ([r.1], r.2) else none
    else if c = 'N' then (namedCharacter? rest).map fun r => ([r.1], r.2)
    else some (['\\'.toNat, c.toNat], rest)

/-- Read escapes to the end of a body. Each round takes at least one character. -/
def unescapeFrom (isBytes : Bool) : Nat → List Char → Option Text
  | 0, _ => some []
  | fuel + 1, cs =>
    match cs with
    | [] => some []
    | ['\\'] => some ['\\'.toNat]
    | '\\' :: c :: rest => do
      let (t, rest) ← readEscape isBytes c rest
      (unescapeFrom isBytes fuel rest).map (t ++ ·)
    | c :: rest => (unescapeFrom isBytes fuel rest).map (c.toNat :: ·)

/-- The text of a body; raw bodies stand for themselves. -/
def unescape (isRaw isBytes : Bool) (body : List Char) : Option Text :=
  if isRaw then some (Text.ofChars body) else unescapeFrom isBytes body.length body

end ModelReach.Source
