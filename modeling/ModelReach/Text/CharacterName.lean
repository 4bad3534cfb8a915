import ModelReach.Text.Basic
import ModelReach.Text.Names.Alphabets
import ModelReach.Text.Names.Forms
import ModelReach.Text.Names.Further
import ModelReach.Text.Names.Pictures
import ModelReach.Text.Names.Scripts
import ModelReach.Text.Names.Syllables
import ModelReach.Text.Names.Symbols
import ModelReach.Text.RangeTable

/-! Characters by their Unicode names. Most names stand in tables, where capital and small letters count as the same.
Some ideographs are named by their numbers, and the syllables of Hangul by their sounds. -/
namespace ModelReach.Text
set_option autoImplicit false

/-! ## Names in tables -/

/-- Characters in a row whose names have one beginning. An empty end stands for a character without a name. -/
structure NameRow where
  first : Nat
  beginning : List Char
  ends : List (List Char)

/-- The row written as number, blank, beginning, bar, and ends parted by commas; without a bar there is no
common beginning. -/
def NameRow.ofChars (cs : List Char) : NameRow :=
  let first := hexValue (cs.takeWhile (· != ' '))
  let names := (cs.dropWhile (· != ' ')).drop 1
  match cutAt '|' names with
  | [beginning, ends] => ⟨first, beginning, cutAt ',' ends⟩
  | _ => ⟨first, [], cutAt ',' names⟩

def NameRow.find? (r : NameRow) (name : List Char) : Option Nat :=
  if r.beginning.isPrefixOf name && r.beginning.length < name.length then
    (r.ends.idxOf? (name.drop r.beginning.length)).map (r.first + ·)
  else none

/-- Rows are parted by semicolons, and go on from line to line. -/
def nameRows (lines : List String) : List NameRow :=
  (cutAt ';' (String.join lines).toList).map NameRow.ofChars

def nameTables : List (List String) :=
  [alphabetNames, syllableNames, symbolNames, formNames, scriptNames, pictureNames]

def tabulated? (name : List Char) : Option Nat :=
  nameTables.findSome? fun lines => (nameRows lines).findSome? fun r => r.find? name

/-- Further names of one character stand in a row of their own. -/
def furtherNamed? (name : List Char) : Option Nat :=
  (nameRows furtherNames).findSome? fun r => if r.ends.contains name then some r.first else none

/-! ## Names with a number -/

def isWithin (ranges : List (Nat × Nat)) (c : Nat) : Bool := ranges.any fun r => r.1 ≤ c && c ≤ r.2

def isCapitalHex (c : Char) : Bool := '0' ≤ c && c ≤ '9' || 'A' ≤ c && c ≤ 'F'

def unifiedIdeographs : List (Nat × Nat) :=
  [(0x3400, 0x4DBF), (0x4E00, 0x9FFF), (0x20000, 0x2A6DF), (0x2A700, 0x2B738), (0x2B740, 0x2B81D),
   (0x2B820, 0x2CEA1), (0x2CEB0, 0x2EBE0), (0x30000, 0x3134A)]

/-- Names that end in the number of the character, with no zero in front. -/
def numberedNames : List (String × List (Nat × Nat)) :=
  [("CJK COMPATIBILITY IDEOGRAPH-", [(0xF900, 0xFA6D), (0xFA70, 0xFAD9), (0x2F800, 0x2FA1D)]),
   ("KHITAN SMALL SCRIPT CHARACTER-", [(0x18B00, 0x18CD5)]),
   ("NUSHU CHARACTER-", [(0x1B170, 0x1B2FB)])]

def ideograph? (digits : List Char) : Option Nat :=
  let c := hexValue digits
  if (digits.length = 4 ∨ digits.length = 5) ∧ digits.all isCapitalHex ∧ isWithin unifiedIdeographs c then some c
  else none

def numbered? (name : List Char) : Option Nat :=
  numberedNames.findSome? fun n =>
    let digits := name.drop n.1.length
    let c := hexValue digits
    if n.1.toList.isPrefixOf name && digits.head? != some '0' && digits.all isCapitalHex && isWithin n.2 c then some c
    else none

/-! ## Syllables -/

def leadSounds : List String :=
  ["G", "GG", "N", "D", "DD", "R", "M", "B", "BB", "S", "SS", "", "J", "JJ", "C", "K", "T", "P", "H"]

def vowelSounds : List String :=
  ["A", "AE", "YA", "YAE", "EO", "E", "YEO", "YE", "O", "WA", "WAE", "OE", "YO", "U", "WEO", "WE", "WI", "YU", "EU",
   "YI", "I"]

def tailSounds : List String :=
  ["", "G", "GG", "GS", "N", "NJ", "NH", "D", "L", "LG", "LM", "LB", "LS", "LT", "LP", "LH", "M", "B", "BS", "S", "SS",
   "NG", "J", "C", "K", "T", "P", "H"]

/-- The place of the longest sound with which a text begins, and the rest. -/
def takeSound (sounds : List String) (cs : List Char) : Option (Nat × List Char) :=
  let longest := sounds.zipIdx.foldl (fun best s =>
    if s.1.toList.isPrefixOf cs && best.all (fun b => b.1.length < s.1.length) then some s else best) none
  longest.map fun s => (s.2, cs.drop s.1.length)

def syllable? (sounds : List Char) : Option Nat := do
  let (lead, rest) ← takeSound leadSounds sounds
  let (vowel, rest) ← takeSound vowelSounds rest
  let (tail, rest) ← takeSound tailSounds rest
  if rest.isEmpty then some (0xAC00 + (lead * vowelSounds.length + vowel) * tailSounds.length + tail) else none

/-! ## All names -/

def cutStart? (start : String) (cs : List Char) : Option (List Char) :=
  if start.toList.isPrefixOf cs then some (cs.drop start.length) else none

/-- The character with a name. What begins like the name of a syllable or of a unified ideograph is one or no name. -/
def characterNamed? (name : List Char) : Option Nat :=
  match cutStart? "HANGUL SYLLABLE " name, cutStart? "CJK UNIFIED IDEOGRAPH-" name with
  | some sounds, _ => syllable? sounds
  | none, some digits => ideograph? digits
  | none, none =>
    let name := name.map Char.toUpper
    furtherNamed? name <|> numbered? name <|> tabulated? name

end ModelReach.Text
