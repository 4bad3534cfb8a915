import ModelReach.Source.Number

/-! Source text into tokens: names, literals and operators, with the ends of logical lines and the
changes of indentation between them. Line ends are single line feeds here. -/
namespace ModelReach.Source
set_option autoImplicit false

/-! ## Indentation -/

/-- How far a line is indented: with tabs to multiples of eight, and with tabs as single blanks. Two
lines are comparable only if both measures agree on which is deeper. -/
structure Margin where
  column : Nat
  alternative : Nat
  /-- The column at the first line break hidden by a backslash; it wins unless it is zero. -/
  continued : Nat
  deriving DecidableEq, Repr

/-- Measure the blanks that begin a line. A form feed starts over; a backslash hides a line break, but
may not stand before the end of the text or anything else. -/
def Margin.measure (m : Margin) : List Char → Option (Margin × List Char)
  | ' ' :: rest => ({ m with column := m.column + 1, alternative := m.alternative + 1 }).measure rest
  | '\t' :: rest =>
    ({ m with column := (m.column / 8 + 1) * 8, alternative := m.alternative + 1 }).measure rest
  | '\x0c' :: rest => ({ m with column := 0, alternative := 0 }).measure rest
  | '\\' :: '\n' :: c :: rest =>
    ({ m with continued := if m.continued = 0 then m.column else m.continued }).measure (c :: rest)
  | '\\' :: _ => none
  | cs => some (m, cs)

def Margin.widths (m : Margin) : Nat × Nat :=
  if m.continued = 0 then (m.column, m.alternative) else (m.continued, m.continued)

def leaveBlocks (width : Nat × Nat) : List (Nat × Nat) → Option (List (Nat × Nat) × List Token)
  | [] => none
  | top :: rest =>
    if width.1 < top.1 then (leaveBlocks width rest).map fun r => (r.1, .dedent :: r.2)
    else if width = top then some (top :: rest, [])
    else none

/-- The most blocks that may be open at once, the module itself included. -/
def maxIndents : Nat := 100

def changeBlocks (width : Nat × Nat) (open' : List (Nat × Nat)) :
    Option (List (Nat × Nat) × List Token) :=
  match open' with
  | [] => none
  | top :: _ =>
    if top.1 < width.1 then
      if maxIndents ≤ open'.length || width.2 ≤ top.2 then none
      else some (width :: open', [.indent])
    else leaveBlocks width open'

/-! ## Strings -/

/-- The rest of a string with single quotes at its ends, and what follows it. A backslash protects the
next character; a bare line break is a fault. -/
def shortBody (quote : Char) : List Char → Option (List Char × List Char)
  | '\\' :: c :: rest => (shortBody quote rest).map fun r => ('\\' :: c :: r.1, r.2)
  | c :: rest =>
    if c = quote then some ([], rest)
    else if c = '\n' then none
    else (shortBody quote rest).map fun r => (c :: r.1, r.2)
  | [] => none

/-- The rest of a string with tripled quotes at its ends, and what follows it. -/
def longBody (quote : Char) : List Char → Option (List Char × List Char)
  | '\\' :: c :: rest => (longBody quote rest).map fun r => ('\\' :: c :: r.1, r.2)
  | a :: b :: c :: rest =>
    if a = quote ∧ b = quote ∧ c = quote then some ([], rest)
    else (longBody quote (b :: c :: rest)).map fun r => (a :: r.1, r.2)
  | _ => none

def stringBody (quote : Char) : List Char → Option (List Char × List Char)
  | a :: b :: rest =>
    if a = quote ∧ b = quote then longBody quote rest else shortBody quote (a :: b :: rest)
  | cs => shortBody quote cs

/-- The letters before a quote, as a string token still without a body. -/
def stringPrefix? (letters : List Char) : Option StringToken :=
  let lower := letters.map Char.toLower
  let token (isBytes isRaw isInterpolated : Bool) : StringToken :=
    ⟨isBytes, isRaw, isInterpolated, letters == ['u'], []⟩
  if lower = [] || lower = ['u'] then some (token false false false)
  else if lower = ['r'] then some (token false true false)
  else if lower = ['b'] then some (token true false false)
  else if lower = ['f'] then some (token false false true)
  else if lower = ['b', 'r'] || lower = ['r', 'b'] then some (token true true false)
  else if lower = ['f', 'r'] || lower = ['r', 'f'] then some (token false true true)
  else none

/-- Read a string after its letters and its first quote. -/
def readString (letters : List Char) (quote : Char) (cs : List Char) :
    Option (Token × List Char) := do
  let token ← stringPrefix? letters
  let (body, rest) ← stringBody quote cs
  pure (.string { token with body := body }, rest)

/-! ## Names and operators -/

/-- The token of a word: a keyword as it stands, or a name in its normal form. -/
def wordToken (word : List Char) : Option Token :=
  let s := String.ofList word
  if keywords.contains s then some (.keyword s)
  else if h : Text.isIdentifier word = true then some (.name (.ofWord word h))
  else none

def readWord (cs : List Char) : Option (Token × List Char) :=
  let word := cs.takeWhile isNameChar
  let rest := cs.dropWhile isNameChar
  match rest with
  | '"' :: body => if (stringPrefix? word).isSome then readString word '"' body
      else (wordToken word).map fun t => (t, rest)
  | '\'' :: body => if (stringPrefix? word).isSome then readString word '\'' body
      else (wordToken word).map fun t => (t, rest)
  | _ => (wordToken word).map fun t => (t, rest)

def operators : List String :=
  ["**=", "...", "//=", "<<=", ">>=",
   "!=", "%=", "&=", "**", "*=", "+=", "-=", "->", "//", "/=", ":=", "<<", "<=", "==", ">=",
   ">>", "@=", "^=", "|=",
   "%", "&", "(", ")", "*", "+", ",", "-", ".", "/", ":", ";", "<", "=", ">", "@", "[", "]", "^",
   "\x7b", "|", "\x7d", "~"]

def readOperator (cs : List Char) : Option (String × List Char) :=
  (operators.find? fun mark => mark.toList.isPrefixOf cs).map fun mark =>
    (mark, cs.drop mark.length)

def maxBrackets : Nat := 200

def changeBrackets (mark : String) (open' : List String) : Option (List String) :=
  let close (mate : String) : Option (List String) :=
    match open' with
    | top :: rest => if top = mate then some rest else none
    | [] => none
  if mark = "(" || mark = "[" || mark = "\x7b" then
    if maxBrackets ≤ open'.length then none else some (mark :: open')
  else if mark = ")" then close "("
  else if mark = "]" then close "["
  else if mark = "\x7d" then close "\x7b"
  else some open'

/-! ## Lines -/

/-- Where the lexer stands: the open blocks and brackets, and whether the line is blank so far. -/
structure LexState where
  blocks : List (Nat × Nat)
  brackets : List String
  blank : Bool

def isLineBlank (c : Char) : Bool := c == ' ' || c == '\t' || c == '\x0c'

/-- Begin a line: unless it is blank or continues a bracket, its indentation opens or closes blocks. -/
def beginLine (s : LexState) (cs : List Char) : Option (LexState × List Token × List Char) := do
  let (m, cs) ← Margin.measure ⟨0, 0, 0⟩ cs
  match cs with
  | '#' :: _ | '\n' :: _ => pure ({ s with blank := true }, [], cs)
  | _ =>
    if s.brackets.isEmpty then
      let (blocks, marks) ← changeBlocks m.widths s.blocks
      pure ({ s with blocks := blocks, blank := false }, marks, cs)
    else pure ({ s with blank := false }, [], cs)

def readToken (s : LexState) (cs : List Char) : Option (LexState × Token × List Char) :=
  match cs with
  | [] => none
  | '"' :: rest => (readString [] '"' rest).map fun r => (s, r)
  | '\'' :: rest => (readString [] '\'' rest).map fun r => (s, r)
  | c :: rest =>
    if isDigit c || (c == '.' && rest.head?.any isDigit) then
      (readNumber cs).map fun r => (s, .number r.1, r.2)
    else if isNameChar c then (readWord cs).map fun r => (s, r)
    else do
      let (mark, rest) ← readOperator cs
      let brackets ← changeBrackets mark s.brackets
      pure ({ s with brackets := brackets }, .op mark, rest)

/-- Read tokens to the end of the text; `done` holds those read, last first. Each round takes at least
one character, so a number of rounds above the length of the text is enough. -/
def lexFrom : Nat → Bool → LexState → List Token → List Char → Option (List Token)
  | 0, _, _, _, _ => none
  | fuel + 1, atStart, s, done, cs => do
    let (s, marks, cs) ← if atStart then beginLine s cs else some (s, [], cs)
    let done := marks.reverse ++ done
    match cs.dropWhile isLineBlank with
    | [] => if s.brackets.isEmpty then some (.stop :: done).reverse else none
    | '#' :: rest => lexFrom fuel false s done (rest.dropWhile (· != '\n'))
    | '\n' :: rest =>
      lexFrom fuel true s (if s.blank || !s.brackets.isEmpty then done else .newline :: done) rest
    | '\\' :: '\n' :: c :: rest => lexFrom fuel false s done (c :: rest)
    | '\\' :: _ => none
    | cs => do
      let (s, token, rest) ← readToken s cs
      lexFrom fuel false s (token :: done) rest

def lex (cs : List Char) : Option (List Token) :=
  lexFrom (cs.length + 1) true ⟨[(0, 0)], [], false⟩ [] cs

end ModelReach.Source
