import ModelReach.Text.Utf8

/-! What can go wrong when a text is read as source or its annotations are converted. -/
namespace ModelReach.Source
set_option autoImplicit false

inductive SourceFault where
  | malformed
  | nullCharacter
  /-- The text holds surrogates that stand alone, in a run that begins at a position. -/
  | loneSurrogates (position : Nat) (run : List Nat)
  /-- An expression inside an interpolated string can be written only with a backslash. -/
  | backslashInside
  /-- An integer has more decimal digits than are ever written out. -/
  | integerTooLong
  | noIndex
  /-- An integer lies above every floating-point number. -/
  | integerTooLarge
  deriving DecidableEq, Repr

def maxWrittenDigits : Nat := 4300

namespace SourceFault

/-- The wording of a fault; grammar faults have none of their own. -/
def message : SourceFault → Option String
  | .malformed => none
  | .nullCharacter => some "source code string cannot contain null bytes"
  | .loneSurrogates position run => some (Text.LoneSurrogates.message ⟨position, run⟩)
  | .backslashInside => some "Unable to avoid backslash in f-string expression part"
  | .integerTooLong => some ("Exceeds the limit (" ++ maxWrittenDigits.repr ++
      " digits) for integer string conversion; use sys.set_int_max_str_digits() to increase the limit")
  | .noIndex => some "list index out of range"
  | .integerTooLarge => some "int too large to convert to float"

/-- Does a fault only make its module fail to load? The others end the whole run. -/
def isLoadFailure : SourceFault → Bool
  | .noIndex | .integerTooLarge => false
  | _ => true

end SourceFault

def writeInteger (n : Nat) : Except SourceFault String :=
  let s := n.repr
  if maxWrittenDigits < s.length then .error .integerTooLong else .ok s

end ModelReach.Source
