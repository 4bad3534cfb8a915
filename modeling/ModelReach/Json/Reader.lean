import ModelReach.Json.Basic
import ModelReach.Source.Number

/-! Reading JSON. Infinite numbers and the number that is none have names; of two fields with one name
the last counts. -/
namespace ModelReach.Json
set_option autoImplicit false

/-! ## Faults -/

inductive Problem where
  | expectingValue
  | extraData
  | expectingName
  | expectingColon
  | expectingComma
  | unterminatedString
  | controlCharacter
  | badEscape
  | badUnicodeEscape
  | byteOrderMark
  deriving DecidableEq, Repr

/-- Why a text is no JSON. A problem stands where a number of characters remain to be read. -/
inductive Fault where
  | problem (kind : Problem) (remaining : Nat)
  | integerTooLong (digits : Nat)
  deriving DecidableEq, Repr

def Problem.message : Problem → String
  | .expectingValue => "Expecting value"
  | .extraData => "Extra data"
  | .expectingName => "Expecting property name enclosed in double quotes"
  | .expectingColon => "Expecting ':' delimiter"
  | .expectingComma => "Expecting ',' delimiter"
  | .unterminatedString => "Unterminated string starting at"
  | .controlCharacter => "Invalid control character at"
  | .badEscape => "Invalid \\escape"
  | .badUnicodeEscape => "Invalid \\uXXXX escape"
  | .byteOrderMark => "Unexpected UTF-8 BOM (decode using utf-8-sig)"

def Fault.message (document : Text) : Fault → String
  | .problem kind remaining =>
    let before := document.take (document.length - remaining)
    let line := before.count 10 + 1
    let column := (before.reverse.takeWhile (· != 10)).length + 1
    kind.message ++ ": line " ++ line.repr ++ " column " ++ column.repr ++ " (char " ++
      before.length.repr ++ ")"
  | .integerTooLong digits =>
    "Exceeds the limit (" ++ Source.maxDecimalDigits.repr ++
      " digits) for integer string conversion: value has " ++ digits.repr ++
      " digits; use sys.set_int_max_str_digits() to increase the limit"

def problemAt {α : Type} (kind : Problem) (rest : Text) : Except Fault α :=
  .error (.problem kind rest.length)

/-! ## Characters -/

def isJsonBlank (c : Nat) : Bool := c == 32 || c == 9 || c == 10 || c == 13

def isChar (c : Char) (n : Nat) : Bool := n == c.toNat

def isJsonDigit (c : Nat) : Bool := 48 ≤ c && c ≤ 57

def skipBlanks (cs : Text) : Text := List.dropWhile isJsonBlank cs

def digitsValue (ds : Text) : Nat := ds.foldl (fun n c => n * 10 + (c - 48)) 0

def hexDigit? (c : Nat) : Option Nat :=
  if c < 128 then Text.hexDigit? (Char.ofNat c) else none

def hexValue? (ds : Text) : Option Nat :=
  if ds.length = 4 then ds.foldlM (fun n c => (hexDigit? c).map fun d => n * 16 + d) 0 else none

/-! ## Strings -/

def simpleEscape? (c : Nat) : Option Nat :=
  if c = 34 ∨ c = 92 ∨ c = 47 then some c
  else if isChar 'b' c then some 8
  else if isChar 'f' c then some 12
  else if isChar 'n' c then some 10
  else if isChar 'r' c then some 13
  else if isChar 't' c then some 9
  else none

def joinSurrogates (high low : Nat) : Nat := 0x10000 + (high - 0xD800) * 0x400 + (low - 0xDC00)

/-- Read the digits of an escape by number, after its letter, and a second escape if the two are a
pair of surrogates. The escape may not end the document. -/
def readUnicode (ds : Text) : Except Fault (Nat × Text) :=
  let fault {α : Type} (ds : Text) : Except Fault α :=
    .error (.problem .badUnicodeEscape (ds.length + 1))
  if ds.length ≤ 4 then fault ds
  else match hexValue? (ds.take 4) with
  | none => fault ds
  | some high =>
    let rest := ds.drop 4
    let single : Except Fault (Nat × Text) := .ok (high, rest)
    if 0xD800 ≤ high && high ≤ 0xDBFF && 6 < rest.length then
      match rest with
      | 92 :: 117 :: more =>
        match hexValue? (more.take 4) with
        | none => fault more
        | some low =>
          if 0xDC00 ≤ low && low ≤ 0xDFFF then .ok (joinSurrogates high low, more.drop 4)
          else single
      | _ => single
    else single

/-- Read a string after its opening quote. Each round takes at least one character. -/
def readString (opening : Text) : Nat → Text → Except Fault (Text × Text)
  | 0, _ => problemAt .unterminatedString opening
  | _, [] => problemAt .unterminatedString opening
  | fuel + 1, c :: rest =>
    if c = 34 then .ok ([], rest)
    else if c = 92 then
      match rest with
      | [] => problemAt .unterminatedString opening
      | e :: more =>
        if isChar 'u' e then do
          let (n, more) ← readUnicode more
          let (t, more) ← readString opening fuel more
          pure (n :: t, more)
        else match simpleEscape? e with
        | none => problemAt .badEscape (c :: rest)
        | some n => do
          let (t, more) ← readString opening fuel more
          pure (n :: t, more)
    else if c < 32 then problemAt .controlCharacter (c :: rest)
    else do
      let (t, more) ← readString opening fuel rest
      pure (c :: t, more)

/-! ## Numbers -/

def readFraction (cs : Text) : Text × Text :=
  match cs with
  | 46 :: rest =>
    if rest.head?.any isJsonDigit then (rest.takeWhile isJsonDigit, rest.dropWhile isJsonDigit)
    else ([], cs)
  | _ => ([], cs)

def readExponent (cs : Text) : Option (Int × Text) :=
  match cs with
  | [] => none
  | e :: rest =>
    if isChar 'e' e || isChar 'E' e then
      let (negative, ds) := match rest with
        | 45 :: more => (true, more)
        | 43 :: more => (false, more)
        | _ => (false, rest)
      if ds.head?.any isJsonDigit then
        let n : Int := digitsValue (ds.takeWhile isJsonDigit)
        some (if negative then -n else n, ds.dropWhile isJsonDigit)
      else none
    else none

/-- Read a number that begins with a digit, after its sign. -/
def readUnsigned (negative : Bool) (cs : Text) : Except Fault (Json × Text) :=
  let whole := if cs.head? = some 48 then [48] else cs.takeWhile isJsonDigit
  let (fraction, rest) := readFraction (cs.drop whole.length)
  let float (e : Int) (rest : Text) : Except Fault (Json × Text) :=
    .ok (.float (.ofDecimal negative (digitsValue (whole ++ fraction)) (e - fraction.length)), rest)
  match readExponent rest with
  | some (e, rest) => float e rest
  | none =>
    if !fraction.isEmpty then float 0 rest
    else if Source.maxDecimalDigits < whole.length then .error (.integerTooLong whole.length)
    else
      let n : Int := digitsValue whole
      .ok (.int (if negative then -n else n), rest)

def readNumber (cs : Text) : Except Fault (Json × Text) :=
  let (negative, digits) := match cs with
    | 45 :: rest => (true, rest)
    | _ => (false, cs)
  if digits.head?.any isJsonDigit then readUnsigned negative digits
  else problemAt .expectingValue cs

/-! ## Values -/

def namedValues : List (String × Json) :=
  [("null", .null), ("true", .bool true), ("false", .bool false), ("NaN", .float .nan),
   ("Infinity", .float (.infinite false)), ("-Infinity", .float (.infinite true))]

def namedValue? (cs : Text) : Option (Json × Text) :=
  (namedValues.find? fun v => (Text.ofString v.1).isPrefixOf cs).map fun v =>
    (v.2, cs.drop v.1.length)

mutual

/-- Read a value. A bracket and the value after it take two rounds, an item or a field one and a
character at least, so twice as many rounds as there are characters are enough. -/
def readValue : Nat → Text → Except Fault (Json × Text)
  | 0, cs => problemAt .expectingValue cs
  | _, [] => problemAt .expectingValue []
  | fuel + 1, c :: rest =>
    if c = 34 then do
      let (t, rest) ← readString (c :: rest) rest.length rest
      pure (.text t, rest)
    else if c = 123 then
      match skipBlanks rest with
      | 125 :: rest => .ok (.object [], rest)
      | rest => do
        let (fields, rest) ← readFields fuel [] rest
        pure (.object fields, rest)
    else if c = 91 then
      match skipBlanks rest with
      | 93 :: rest => .ok (.array [], rest)
      | rest => do
        let (items, rest) ← readItems fuel [] rest
        pure (.array items, rest)
    else match namedValue? (c :: rest) with
    | some found => .ok found
    | none => readNumber (c :: rest)

def readItems : Nat → List Json → Text → Except Fault (List Json × Text)
  | 0, _, cs => problemAt .expectingValue cs
  | fuel + 1, done, cs => do
    let (v, rest) ← readValue fuel cs
    match skipBlanks rest with
    | 93 :: rest => pure ((v :: done).reverse, rest)
    | 44 :: rest => readItems fuel (v :: done) (skipBlanks rest)
    | rest => problemAt .expectingComma rest

def readFields : Nat → List (Text × Json) → Text → Except Fault (List (Text × Json) × Text)
  | 0, _, cs => problemAt .expectingName cs
  | fuel + 1, done, cs =>
    match cs with
    | 34 :: rest => do
      let (name, rest) ← readString cs rest.length rest
      match skipBlanks rest with
      | 58 :: rest => do
        let (v, rest) ← readValue fuel (skipBlanks rest)
        let done := put done name v
        match skipBlanks rest with
        | 125 :: rest => pure (done, rest)
        | 44 :: rest => readFields fuel done (skipBlanks rest)
        | rest => problemAt .expectingComma rest
      | rest => problemAt .expectingColon rest
    | _ => problemAt .expectingName cs

end

def ofText (document : Text) : Except Fault Json :=
  if document.head? = some 0xFEFF then problemAt .byteOrderMark document
  else do
    let (v, rest) ← readValue (2 * document.length + 1) (skipBlanks document)
    match skipBlanks rest with
    | [] => pure v
    | rest => problemAt .extraData rest

end ModelReach.Json
