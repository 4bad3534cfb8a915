import ModelReach.Text.Basic

/-! Whitespace: the 29 characters that Unicode 14 counts as spaces or that part paragraphs, segments
or words in bidirectional text. -/
namespace ModelReach.Text
set_option autoImplicit false

def isBlank (c : Nat) : Bool :=
  (0x9 ≤ c && c ≤ 0xD) || (0x1C ≤ c && c ≤ 0x20) || c == 0x85 || c == 0xA0 || c == 0x1680 ||
  (0x2000 ≤ c && c ≤ 0x200A) || c == 0x2028 || c == 0x2029 || c == 0x202F || c == 0x205F ||
  c == 0x3000

def strip (t : Text) : Text := trim isBlank t

def stripStart (t : Text) : Text := List.dropWhile isBlank t

end ModelReach.Text
