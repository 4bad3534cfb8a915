import ModelReach.Source.Grammar.Expression

/-! The layer of patterns. They declare nothing, so a pattern is only checked. -/
namespace ModelReach.Source
set_option autoImplicit false

open Source.Parser

/-! ## Literals -/

def isImaginary : Constant → Bool
  | .imaginary _ => true
  | _ => false

def numberToken : Parser Constant
  | .number value :: rest => some (value, rest)
  | _ => none

def patternNumber : Parser Unit := do
  let _ ← takeOp "-"
  let left ← numberToken
  if (← atOp "+") || (← atOp "-") then
    check (!isImaginary left)
    let _ ← next
    let right ← numberToken
    check (isImaginary right)
  else pure ()

def patternLiteral (g : Grammar) : Parser Unit := fun ts =>
  match ts with
  | .number _ :: _ | .op "-" :: _ => patternNumber ts
  | .string _ :: _ => (do let _ ← strings g : Parser Unit) ts
  | .keyword w :: rest => if (keywordConstant? w).isSome then some ((), rest) else none
  | _ => none

/-! ## Compound patterns -/

/-- A name that a pattern may bind: not the underscore, and not the head of something longer. -/
def captureName : Parser Unit := do
  let id ← ident
  check (id != "_")
  check (!((← atOp ".") || (← atOp "(") || (← atOp "=")))

def starPattern : Parser Unit := do
  op "*"
  match ← attempt captureName with
  | some _ => pure ()
  | none => softWord "_"

def sequenceElement (g : Grammar) : Parser Unit := do
  if ← atOp "*" then starPattern else g.pattern

def sequenceRest (g : Grammar) (closing : String) : Parser Unit := do
  if ← takeOp closing then pure ()
  else
    let _ ← commaList1 (sequenceElement g)
    op closing

/-- A pattern in parentheses, or a sequence; a sole starred element needs a comma. -/
def parenPattern (g : Grammar) : Parser Unit := do
  if ← takeOp ")" then pure ()
  else
    let isStar ← atOp "*"
    sequenceElement g
    if ← takeOp "," then sequenceRest g ")"
    else
      check (!isStar)
      op ")"

def dottedIdent : Parser Nat := do
  let _ ← ident
  let attrs ← many (do op "."; ident)
  pure attrs.length

def mappingKey (g : Grammar) : Parser Unit := do
  match ← attempt (patternLiteral g) with
  | some _ => pure ()
  | none => check (0 < (← dottedIdent))

/-- An entry of a mapping pattern; tells whether it takes the rest. -/
def mappingEntry (g : Grammar) : Parser Bool := do
  if ← takeOp "**" then
    captureName
    pure true
  else
    mappingKey g
    op ":"
    g.pattern
    pure false

def mappingPattern (g : Grammar) : Parser Unit := do
  if ← takeOp "\x7d" then pure ()
  else
    let entries ← commaList1 (mappingEntry g)
    op "\x7d"
    check (entries.dropLast.all fun takesRest => !takesRest)

/-- An argument of a class pattern; tells whether it is a keyword. -/
def classArgument (g : Grammar) : Parser Bool := fun ts =>
  match ts with
  | .name _ :: .op "=" :: rest => (do g.pattern; pure true : Parser Bool) rest
  | _ => (do g.pattern; pure false : Parser Bool) ts

def classArguments (g : Grammar) : Parser Unit := do
  if ← takeOp ")" then pure ()
  else
    let keywords ← commaList1 (classArgument g)
    op ")"
    check ((keywords.dropWhile fun k => !k).all fun k => k)

/-- A pattern that begins with a name: a capture, the underscore, a value, or a class. The underscore
alone is a whole pattern. -/
def namePattern (g : Grammar) : Parser Unit := do
  match ← attempt captureName with
  | some _ => pure ()
  | none =>
    match ← attempt (softWord "_") with
    | some _ => pure ()
    | none =>
      let attrs ← dottedIdent
      if ← takeOp "(" then classArguments g
      else
        check (0 < attrs)
        check (!(← atOp "="))

def closedPattern (g : Grammar) : Parser Unit := fun ts =>
  match ts with
  | .name _ :: _ => namePattern g ts
  | .op "(" :: rest => parenPattern g rest
  | .op "[" :: rest => sequenceRest g "]" rest
  | .op "\x7b" :: rest => mappingPattern g rest
  | _ => patternLiteral g ts

def pattern (g : Grammar) : Parser Unit := do
  let _ ← sepBy1 "|" (closedPattern g)
  if ← takeWord "as" then captureName else pure ()

def casePatterns (g : Grammar) : Parser Unit := do
  let isStar ← atOp "*"
  if isStar then starPattern else pattern g
  if ← takeOp "," then
    let _ ← attempt (commaList1 (sequenceElement g))
    pure ()
  else check (!isStar)

end ModelReach.Source
