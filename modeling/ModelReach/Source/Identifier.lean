import ModelReach.Proofs.Text.Normal

/-! Identifiers: the words of a source text that are names. -/
namespace ModelReach.Source
set_option autoImplicit false

/-- A name without a point, so that names joined by points can be told apart again, and without a closing bracket,
which ends the key of a type made of others. -/
structure Identifier where
  text : String
  unmarked : '.' ∉ text.toList ∧ ']' ∉ text.toList
  deriving DecidableEq, Repr

theorem Identifier.unpointed (name : Identifier) : '.' ∉ name.text.toList := name.unmarked.1

/-- The identifier that a word is: in its normal form, which a word of ASCII characters has already. -/
def Identifier.ofWord (word : List Char) (h : Text.isIdentifier word = true) : Identifier :=
  if word.all fun c => c.toNat < 128 then
    ⟨String.ofList word, by rw [String.toList_ofList]; exact Text.marks_notMem (Text.unmarked_of_isIdentifier h)⟩
  else ⟨Text.toString (Text.nfkc (Text.ofChars word)), Text.marks_notMem (Text.unmarked_toString_nfkc h)⟩

end ModelReach.Source
