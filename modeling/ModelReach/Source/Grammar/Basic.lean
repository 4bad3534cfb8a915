import ModelReach.Source.Interpolation

/-! Parsers over tokens. Alternatives are tried in order from the same place, and the first that
succeeds is taken for good. -/
namespace ModelReach.Source
set_option autoImplicit false

/-! ## Parsers -/

/-- A parser takes tokens from the front, or fails. -/
abbrev Parser := StateT (List Token) Option

namespace Parser

variable {α β : Type}

def fail : Parser α := fun _ => none

def check (b : Bool) : Parser Unit := if b then pure () else fail

def next : Parser Token
  | [] => none
  | t :: rest => some (t, rest)

def peek? : Parser (Option Token) := fun ts => some (ts.head?, ts)

def token (t : Token) : Parser Unit
  | [] => none
  | u :: rest => if u = t then some ((), rest) else none

def op (mark : String) : Parser Unit := token (.op mark)

def word (w : String) : Parser Unit := token (.keyword w)

def identifier : Parser Identifier
  | .name id :: rest => some (id, rest)
  | _ => none

def ident : Parser String := Identifier.text <$> identifier

def softWord (w : String) : Parser Unit := do
  let name ← ident
  check (name == w)

def atToken (t : Token) : Parser Bool := fun ts => some (ts.head? == some t, ts)

def atOp (mark : String) : Parser Bool := atToken (.op mark)

def atWord (w : String) : Parser Bool := atToken (.keyword w)

def takeToken (t : Token) : Parser Bool
  | [] => some (false, [])
  | u :: rest => if u = t then some (true, rest) else some (false, u :: rest)

def takeOp (mark : String) : Parser Bool := takeToken (.op mark)

def takeWord (w : String) : Parser Bool := takeToken (.keyword w)

def atBinding : Parser Bool := fun ts =>
  match ts with
  | .name _ :: .op ":=" :: _ => some (true, ts)
  | _ => some (false, ts)

/-- The result of a parser if it succeeds; otherwise nothing is taken. -/
def attempt (p : Parser α) : Parser (Option α) := fun ts =>
  match p ts with
  | some (a, rest) => some (some a, rest)
  | none => some (none, ts)

/-- Apply a step again and again, at most `n` times, until it fails. -/
def extendAtMost (step : α → Parser α) : Nat → α → Parser α
  | 0, a => pure a
  | n + 1, a => fun ts =>
    match step a ts with
    | some (b, rest) => extendAtMost step n b rest
    | none => some (a, ts)

/-- Apply a step again and again until it fails. Each step takes a token, so the tokens bound the
number of rounds. -/
def extend (step : α → Parser α) (a : α) : Parser α := fun ts =>
  match step a ts with
  | some (b, rest) => extendAtMost step rest.length b rest
  | none => some (a, ts)

def many (p : Parser α) : Parser (List α) :=
  List.reverse <$> extend (fun done => (· :: done) <$> p) []

def many1 (p : Parser α) : Parser (List α) := do
  let first ← p
  let rest ← many p
  pure (first :: rest)

def sepBy1 (mark : String) (p : Parser α) : Parser (List α) := do
  let first ← p
  let rest ← many (do op mark; p)
  pure (first :: rest)

def commaList1 (p : Parser α) : Parser (List α) := do
  let items ← sepBy1 "," p
  let _ ← takeOp ","
  pure items

end Parser

/-! ## The record of nested parsers -/

/-- The parsers that recur inside brackets, blocks and operands. A grammar is built in layers: each
layer's parsers call those of the layer below after they have taken a token, so as many layers as
there are characters are enough. -/
structure Grammar where
  expression : Parser Expr
  namedExpression : Parser Expr
  starNamedExpression : Parser Expr
  starExpressions : Parser Expr
  yieldOrStars : Parser Expr
  disjunction : Parser Expr
  inversion : Parser Expr
  bitOr : Parser Expr
  factor : Parser Expr
  target : Parser Expr
  pattern : Parser Unit
  statements : Parser (List Stmt)
  /-- Read an expression that stands inside a string. -/
  embedded : List Char → Option Expr

def Grammar.nothing : Grammar where
  expression := Parser.fail
  namedExpression := Parser.fail
  starNamedExpression := Parser.fail
  starExpressions := Parser.fail
  yieldOrStars := Parser.fail
  disjunction := Parser.fail
  inversion := Parser.fail
  bitOr := Parser.fail
  factor := Parser.fail
  target := Parser.fail
  pattern := Parser.fail
  statements := Parser.fail
  embedded := fun _ => none

end ModelReach.Source
