import ModelReach.Decimal.Layout
import ModelReach.Source.Number
import ModelReach.Text.Quoted
import ModelReach.Validation.Basic

/-! Checks of plain values. Texts are taken as they are; booleans and numbers may be written as texts. -/
namespace ModelReach.Validation
set_option autoImplicit false

/-! ## Texts and lists -/

def text : Json → Checked Text
  | .text t => .valid t
  | _ => .refuse .noString

def string (v : Json) : Checked String := Text.toString <$> text v

def listOf {α : Type} (check : Json → Checked α) : Json → Checked (List α)
  | .array items => Checked.all check 0 items
  | _ => .refuse .noList

def nonEmptyListOf {α : Type} (check : Json → Checked α) : Json → Checked (List α)
  | .array [] => .refuse .tooShort
  | v => listOf check v

def anything (v : Json) : Checked Json := .valid v

def entriesOf {α : Type} (check : Json → Checked α) : Fields → Checked (List (Text × α))
  | [] => .valid []
  | (name, v) :: rest =>
    (fun a more => (name, a) :: more) <$> (check v).inside name.toString <*> entriesOf check rest

def dictionaryOf {α : Type} (check : Json → Checked α) : Json → Checked (List (Text × α))
  | .object fields => entriesOf check fields
  | _ => .refuse .noDictionary

/-! ## Booleans -/

def trueWords : List String := ["1", "t", "y", "on", "yes", "true"]

def falseWords : List String := ["0", "f", "n", "no", "off", "false"]

def booleanOfInt (n : Int) : Checked Bool :=
  if n = 0 then .valid false else if n = 1 then .valid true else .refuse .unreadableBoolean

def isWord (n : Int) : Bool := n.natAbs ≤ Nat.pow 2 63

/-- A boolean. Zero and one stand for false and true, and some words do; integers far outside the range of
words are no booleans at all. -/
def boolean : Json → Checked Bool
  | .bool b => .valid b
  | .int n => if isWord n then booleanOfInt n else .refuse .noBoolean
  | .float x =>
    match x.toInt? with
    | some n => if isWord n then booleanOfInt n else .refuse .noBoolean
    | none => .refuse .noBoolean
  | .text t =>
    let word := String.ofList (t.toChars.map Char.toLower)
    if trueWords.contains word then .valid true
    else if falseWords.contains word then .valid false
    else .refuse .unreadableBoolean
  | _ => .refuse .noBoolean

/-! ## Numbers -/

def isNumberBlank (c : Char) : Bool :=
  let n := c.toNat
  (9 ≤ n && n ≤ 13) || n == 32 || n == 0x85 || n == 0xA0 || n == 0x1680 ||
  (0x2000 ≤ n && n ≤ 0x200A) || n == 0x2028 || n == 0x2029 || n == 0x202F || n == 0x205F ||
  n == 0x3000

/-- A number in decimal notation, after its sign. A digit must stand before or after the point. -/
def unsignedDecimal? (negative : Bool) (cs : List Char) : Option Binary64 :=
  let whole := cs.takeWhile Source.isDigit
  let rest := cs.drop whole.length
  let (fraction, rest) := match rest with
    | '.' :: more => (more.takeWhile Source.isDigit, more.dropWhile Source.isDigit)
    | _ => ([], rest)
  let value (e : Int) : Binary64 :=
    .ofDecimal negative (Source.digitsValue 10 (whole ++ fraction)) (e - fraction.length)
  if whole.isEmpty && fraction.isEmpty then none
  else match rest with
  | [] => some (value 0)
  | e :: ds =>
    if e ≠ 'e' ∧ e ≠ 'E' then none
    else
      let (down, ds) := match ds with
        | '-' :: ds => (true, ds)
        | '+' :: ds => (false, ds)
        | _ => (false, ds)
      if ds.isEmpty || !ds.all Source.isDigit then none
      else
        let n : Int := Source.digitsValue 10 ds
        some (value (if down then -n else n))

/-- A number in decimal notation, or the name of infinity or of the number that is none. -/
def decimal? (cs : List Char) : Option Binary64 :=
  let (negative, cs) := match cs with
    | '-' :: cs => (true, cs)
    | '+' :: cs => (false, cs)
    | _ => (false, cs)
  let word := cs.map Char.toLower
  if word = "inf".toList ∨ word = "infinity".toList then some (.infinite negative)
  else if word = "nan".toList then some .nan
  else unsignedDecimal? negative cs

def withoutUnderscores? (cs : List Char) : Option (List Char) :=
  if cs.head? = some '_' || cs.getLast? = some '_' || !cs.contains '_' ||
      Text.occursIn ['_', '_'] cs then none
  else some (cs.filter (· ≠ '_'))

def numberOfText? (cs : List Char) : Option Binary64 :=
  (decimal? (Text.trim isNumberBlank cs)).or ((withoutUnderscores? cs).bind decimal?)

def number : Json → Checked Binary64
  | .float x => .valid x
  | .int n =>
    match Binary64.ofInt n with
    | .infinite _ => .refuse .noNumber
    | x => .valid x
  | .bool b => .valid (.ofInt (if b then 1 else 0))
  | .text t =>
    match numberOfText? t.toChars with
    | some x => .valid x
    | none => .refuse .unreadableNumber
  | _ => .refuse .noNumber

/-! ## Values as text -/

mutual

def inner : Json → String
  | .null => "None"
  | .bool b => if b then "True" else "False"
  | .int n => (if n < 0 then "-" else "") ++ n.natAbs.repr
  | .float x => Binary64.plainLayout.render x
  | .text t => Text.quoted t
  | .array items => "[" ++ ", ".intercalate (innerItems items) ++ "]"
  | .object fields => "\x7b" ++ ", ".intercalate (innerFields fields) ++ "\x7d"

def innerItems : List Json → List String
  | [] => []
  | v :: rest => inner v :: innerItems rest

def innerFields : List (Text × Json) → List String
  | [] => []
  | (name, v) :: rest => (Text.quoted name ++ ": " ++ inner v) :: innerFields rest

end

def plainText : Json → String
  | .text t => t.toString
  | v => inner v

end ModelReach.Validation
