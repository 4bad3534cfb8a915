import ModelReach.Source.Escape

/-! String literals as expressions: neighbouring literals are joined, and an interpolated literal is
cut into texts and expressions. Nested expressions are read by a function given here as `embedded`. -/
namespace ModelReach.Source
set_option autoImplicit false

/-! ## Texts between expressions -/

def isBrace (c : Char) : Bool := c == '\x7b' || c == '\x7d'

/-- How a stretch of literal text ends: at a doubled brace, which stands for one, or before a brace or
the end. -/
inductive StretchEnd where
  | doubled
  | plain
  deriving DecidableEq, Repr

structure Stretch where
  source : List Char
  ending : StretchEnd
  rest : List Char

def Stretch.prepend (cs : List Char) (s : Stretch) : Stretch := { s with source := cs ++ s.source }

/-- What a brace does: doubled it ends the stretch as one brace, but only at the top; alone it ends
the stretch before it, but a closing one at the top is a fault. -/
def stretchAtBrace (top : Bool) (c : Char) (rest : List Char) : Option Stretch :=
  if top && rest.head? == some c then some ⟨[c], .doubled, rest.tail⟩
  else if top && c == '\x7d' then none
  else some ⟨[], .plain, c :: rest⟩

/-- Read literal text up to a brace. A backslash does not protect a brace, but the braces after a
backslash and an `N` belong to the name of a character. -/
def readStretch (isRaw top : Bool) : Nat → List Char → Option Stretch
  | 0, cs => some ⟨[], .plain, cs⟩
  | _, [] => some ⟨[], .plain, []⟩
  | fuel + 1, c :: rest =>
    if c == '\\' && !isRaw then
      match rest with
      | [] => some ⟨[c], .plain, []⟩
      | 'N' :: '\x7b' :: more =>
        let word := more.takeWhile (· != '\x7d')
        match more.dropWhile (· != '\x7d') with
        | close :: more =>
          (readStretch isRaw top fuel more).map (·.prepend (c :: 'N' :: '\x7b' :: word ++ [close]))
        | [] => some ⟨c :: rest, .plain, []⟩
      | d :: more =>
        if isBrace d then (stretchAtBrace top d more).map (·.prepend [c])
        else (readStretch isRaw top fuel more).map (·.prepend [c, d])
    else if isBrace c then stretchAtBrace top c rest
    else (readStretch isRaw top fuel rest).map (·.prepend [c])

/-! ## The extent of an expression -/

def closingMate? (c : Char) : Option Char :=
  if c = '(' then some ')' else if c = '[' then some ']' else if c = '\x7b' then some '\x7d' else none

/-- Cut off the source of an expression: up to an exclamation mark, a colon, an equals sign or a
closing brace outside brackets and strings, comparisons apart. `quote` is the open string, with a flag
for tripled quotes; `open'` holds the mates of the open brackets. Backslashes and number signs are
faults. -/
def exprExtent (quote : Option (Char × Bool)) (open' : List Char) :
    List Char → Option (List Char × List Char)
  | [] => none
  | c :: rest =>
    let take (quote : Option (Char × Bool)) (open' : List Char) :=
      (exprExtent quote open' rest).map fun r => (c :: r.1, r.2)
    if c = '\\' then none
    else match quote with
    | some (q, false) => take (if c = q then none else quote) open'
    | some (q, true) =>
      match rest with
      | d :: e :: more =>
        if c = q ∧ d = q ∧ e = q then
          (exprExtent none open' more).map fun r => (c :: d :: e :: r.1, r.2)
        else take quote open'
      | _ => take quote open'
    | none =>
      if c = '\'' || c = '"' then
        match rest with
        | d :: e :: more =>
          if d = c ∧ e = c then
            (exprExtent (some (c, true)) open' more).map fun r => (c :: d :: e :: r.1, r.2)
          else take (some (c, false)) open'
        | _ => take (some (c, false)) open'
      else if let some mate := closingMate? c then
        if maxNesting ≤ open'.length then none else take none (mate :: open')
      else if c = '#' then none
      else if open'.isEmpty && (c = '!' || c = ':' || c = '\x7d' || c = '=' || c = '<' || c = '>') then
        match rest with
        | '=' :: more =>
          if c = ':' || c = '\x7d' then some ([], c :: rest)
          else (exprExtent none open' more).map fun r => (c :: '=' :: r.1, r.2)
        | _ => if c = '<' || c = '>' then take none open' else some ([], c :: rest)
      else if c = ')' || c = ']' || c = '\x7d' then
        match open' with
        | mate :: open' => if c = mate then take none open' else none
        | [] => none
      else take none open'
where
  maxNesting : Nat := 200

/-! ## Pieces -/

/-- The pieces of joined literals read so far, last first, and the text after them. -/
structure Pieces where
  parts : List Expr
  pending : Text

def Pieces.addText (p : Pieces) (t : Text) : Pieces := { p with pending := p.pending ++ t }

def Pieces.flush (p : Pieces) : Pieces :=
  if p.pending.isEmpty then p else ⟨.constant (.text p.pending false) :: p.parts, []⟩

def Pieces.addExpr (p : Pieces) (e : Expr) : Pieces :=
  let p := p.flush
  { p with parts := e :: p.parts }

def Pieces.toExpr (p : Pieces) : Expr := .joined p.flush.parts.reverse

def isExprBlank (c : Char) : Bool := c == ' ' || c == '\t' || c == '\n' || c == '\x0c'

def isAsciiSpace (c : Char) : Bool := c == ' ' || ('\t' ≤ c && c ≤ '\r')

/-- Read an expression in braces, after the opening one. An equals sign after it shows its source
before its value, which then stands as `!r` unless a conversion or a format says otherwise. -/
def readReplacement (embedded : List Char → Option Expr)
    (readFormat : List Char → Option (Expr × List Char)) (pieces : Pieces) (cs : List Char) :
    Option (Pieces × List Char) := do
  let (source, rest) ← exprExtent none [] cs
  guard (!source.all isExprBlank)
  let value ← embedded ('(' :: source ++ [')'])
  let (pieces, shown, rest) := match rest with
    | '=' :: more =>
      let blanks := more.takeWhile isAsciiSpace
      (pieces.addText (Text.ofChars (source ++ '=' :: blanks)), true, more.dropWhile isAsciiSpace)
    | _ => (pieces, false, rest)
  let (conversion, rest) ← match rest with
    | '!' :: c :: more => if c = 's' || c = 'r' || c = 'a' then some (some c, more) else none
    | ['!'] => none
    | _ => some (none, rest)
  let (format, rest) ← match rest with
    | ':' :: more => (readFormat more).map fun r => (some r.1, r.2)
    | _ => some (none, rest)
  match rest with
  | '\x7d' :: rest =>
    let conversion := if shown && conversion.isNone && format.isNone then some 'r' else conversion
    some (pieces.addExpr (.formatted value conversion format), rest)
  | _ => none

/-- Read texts and replacements alternately, to the end or to a closing brace. -/
def readPieces (isRaw top : Bool)
    (replacement : Pieces → List Char → Option (Pieces × List Char)) :
    Nat → Pieces → List Char → Option (Pieces × List Char)
  | 0, _, _ => none
  | fuel + 1, pieces, cs => do
    let stretch ← readStretch isRaw top cs.length cs
    let text ← unescape isRaw false stretch.source
    let pieces := pieces.addText text
    match stretch.ending, stretch.rest with
    | .doubled, rest => readPieces isRaw top replacement fuel pieces rest
    | .plain, '\x7b' :: rest => do
      let (pieces, rest) ← replacement pieces rest
      readPieces isRaw top replacement fuel pieces rest
    | .plain, rest => some (pieces, rest)

/-- Read a format, up to the brace that closes its replacement. Formats nest once more. -/
def readFormat (embedded : List Char → Option Expr) (isRaw : Bool) :
    Nat → List Char → Option (Expr × List Char)
  | 0, cs => do
    let (pieces, rest) ← readPieces isRaw false (fun _ _ => none) (cs.length + 1) ⟨[], []⟩ cs
    if rest.head? = some '\x7d' then some (pieces.toExpr, rest) else none
  | depth + 1, cs => do
    let replacement := readReplacement embedded (readFormat embedded isRaw depth)
    let (pieces, rest) ← readPieces isRaw false replacement (cs.length + 1) ⟨[], []⟩ cs
    if rest.head? = some '\x7d' then some (pieces.toExpr, rest) else none

def readInterpolated (embedded : List Char → Option Expr) (isRaw : Bool) (pieces : Pieces)
    (body : List Char) : Option Pieces := do
  let replacement := readReplacement embedded (readFormat embedded isRaw 1)
  let (pieces, rest) ← readPieces isRaw true replacement (body.length + 1) pieces body
  if rest.isEmpty then some pieces else none

/-! ## Joined literals -/

/-- Join byte strings; they hold ASCII characters only. -/
def joinBytes (literals : List StringToken) : Option (List Nat) :=
  literals.foldlM (fun done literal => do
    guard (literal.body.all fun c => c.toNat < 128)
    let bytes ← unescape literal.isRaw true literal.body
    pure (done ++ bytes)) []

def joinTexts (embedded : List Char → Option Expr) (literals : List StringToken) : Option Pieces :=
  literals.foldlM (fun pieces literal =>
    if literal.isInterpolated then readInterpolated embedded literal.isRaw pieces literal.body
    else (unescape literal.isRaw false literal.body).map pieces.addText) ⟨[], []⟩

def joinLiterals (embedded : List Char → Option Expr) (literals : List StringToken) : Option Expr :=
  let marked := literals.head?.any (·.marked)
  if literals.all (·.isBytes) then (joinBytes literals).map fun b => .constant (.bytes b)
  else if literals.any (·.isBytes) then none
  else (joinTexts embedded literals).map fun pieces =>
    if literals.any (·.isInterpolated) then pieces.toExpr
    else .constant (.text pieces.pending marked)

end ModelReach.Source
