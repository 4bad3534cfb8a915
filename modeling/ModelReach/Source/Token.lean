import ModelReach.Source.Syntax

/-! Tokens of source text. -/
namespace ModelReach.Source
set_option autoImplicit false

/-- A string literal as written: what its letters say, and the characters between its quotes. -/
structure StringToken where
  isBytes : Bool
  isRaw : Bool
  isInterpolated : Bool
  marked : Bool
  body : List Char
  deriving DecidableEq, Repr

inductive Token where
  | name (id : Identifier)
  | keyword (word : String)
  | number (value : Constant)
  | string (literal : StringToken)
  | op (mark : String)
  | newline
  | indent
  | dedent
  | stop
  deriving DecidableEq, Repr

def keywords : List String :=
  ["False", "None", "True", "and", "as", "assert", "async", "await", "break", "class", "continue",
   "def", "del", "elif", "else", "except", "finally", "for", "from", "global", "if", "import", "in",
   "is", "lambda", "nonlocal", "not", "or", "pass", "raise", "return", "try", "while", "with",
   "yield"]

end ModelReach.Source
