/-! Texts as lists of code points. A text may hold surrogates that stand alone, which a string cannot:
escapes in literals and in options files can write them. -/
namespace ModelReach

abbrev Text := List Nat

namespace Text
set_option autoImplicit false

/-! ## Characters and strings -/

def isSurrogate (c : Nat) : Bool := 0xD800 ≤ c && c ≤ 0xDFFF

/-- The character of a code point; a surrogate has the replacement character. -/
def charOf (c : Nat) : Char := if c.isValidChar then Char.ofNat c else '\uFFFD'

def ofChars (cs : List Char) : Text := cs.map Char.toNat

def ofString (s : String) : Text := ofChars s.toList

/-- The characters of a text, surrogates replaced. -/
def toChars (t : Text) : List Char := List.map charOf t

def toString (t : Text) : String := String.ofList t.toChars

def firstSurrogate? (t : Text) : Option (Nat × Nat) :=
  (t.zipIdx.find? fun p => isSurrogate p.1).map fun p => (p.2, p.1)

/-! ## Cutting and joining -/

def pieces {α : Type} [BEq α] (mark : α) (l : List α) : List (List α) :=
  l.foldr (fun c parts => match parts with
    | part :: rest => if c == mark then [] :: part :: rest else (c :: part) :: rest
    | [] => [[c]]) [[]]

def trim {α : Type} (p : α → Bool) (l : List α) : List α :=
  (((l.dropWhile p).reverse).dropWhile p).reverse

def expand {α : Type} [BEq α] (mark : α) (image : List α) (l : List α) : List α :=
  l.flatMap fun c => if c == mark then image else [c]

/-- Let every line end be one line feed: a carriage return is one, and takes a line feed after it
along. -/
def lineFeeds : Text → Text
  | 13 :: 10 :: rest => 10 :: lineFeeds rest
  | 13 :: rest => 10 :: lineFeeds rest
  | c :: rest => c :: lineFeeds rest
  | [] => []

def occursIn {α : Type} [BEq α] (needle : List α) : List α → Bool
  | [] => needle.isEmpty
  | c :: rest => needle.isPrefixOf (c :: rest) || occursIn needle rest

end Text
end ModelReach
