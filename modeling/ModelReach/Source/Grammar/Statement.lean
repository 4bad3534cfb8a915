import ModelReach.Source.Grammar.Pattern
import ModelReach.Source.Lexer

/-! The layer of statements, and whole texts. -/
namespace ModelReach.Source
set_option autoImplicit false

open Source.Parser

/-! ## Simple statements -/

def augmentedOps : List String :=
  ["+=", "-=", "*=", "@=", "/=", "%=", "&=", "|=", "^=", "<<=", ">>=", "**=", "//="]

/-- The targets and the value of a chain of assignments; the value stands last. -/
def assignChain (g : Grammar) (first : Expr) : Parser Stmt := do
  let rest ← many (do op "="; g.yieldOrStars)
  let all := first :: rest
  match all.getLast? with
  | some value =>
    check (areTargets all.dropLast)
    check (!(← atOp "="))
    pure (.assign all.dropLast value)
  | none => fail

def bracketedTarget (g : Grammar) : Parser Expr := do
  op "("
  let e ← primary g
  check e.isSingleTarget
  op ")"
  pure e

/-- Can the tokens begin an annotated assignment? A single target in parentheses is the whole target
there, so nothing but the colon may follow it. -/
def mayAnnotate (g : Grammar) : Parser Bool := fun ts =>
  match bracketedTarget g ts with
  | some (_, rest) => some (rest.head? == some (.op ":"), ts)
  | none => some (true, ts)

/-- A statement that begins with an expression: an annotation, an assignment, or the expression. -/
def expressionStatement (g : Grammar) : Parser Stmt := do
  let mayAnnotate ← mayAnnotate g
  let first ← starExpressions g
  match ← peek? with
  | some (.op ":") => do
    let _ ← next
    check (mayAnnotate && first.isSingleTarget)
    let type ← g.expression
    let value ← if ← takeOp "=" then some <$> g.yieldOrStars else pure none
    pure (.annotated first type value)
  | some (.op "=") => assignChain g first
  | some (.op mark) =>
    if augmentedOps.contains mark then do
      let _ ← next
      check first.isSingleTarget
      let _ ← g.yieldOrStars
      pure .other
    else pure (.expr first)
  | _ => pure (.expr first)

def dottedName : Parser String := do
  let parts ← sepBy1 "." ident
  pure (".".intercalate parts)

def boundAs : Parser (Option String) := do
  if ← takeWord "as" then some <$> ident else pure none

def importModules : Parser Stmt := do
  let names ← sepBy1 "," (do
    let name ← dottedName
    pure ⟨name, ← boundAs⟩)
  pure (.importModules names)

def importedName : Parser ImportName := do
  let name ← ident
  pure ⟨name, ← boundAs⟩

def importLevel : Parser Nat := do
  let dots ← many (do
    if ← takeOp "..." then pure 3
    else
      op "."
      pure 1)
  pure (dots.foldl Nat.add 0)

def importedNames : Parser (List ImportName) := do
  if ← takeOp "*" then pure [⟨"*", none⟩]
  else if ← takeOp "(" then
    let names ← commaList1 importedName
    op ")"
    pure names
  else
    let names ← sepBy1 "," importedName
    check (!(← atOp ","))
    pure names

def importFrom : Parser Stmt := do
  let level ← importLevel
  let base ← attempt dottedName
  check (0 < level || base.isSome)
  word "import"
  let names ← importedNames
  pure (.importFrom level base names)

def deletion (g : Grammar) : Parser Stmt := do
  let targets ← commaList1 (primary g)
  check (areDeletable targets)
  check ((← atOp ";") || (← atToken .newline))
  pure .other

/-- A statement without a form of its own, after its keyword. -/
def otherSimple (g : Grammar) (w : String) : Parser Stmt := do
  if w = "pass" || w = "break" || w = "continue" then pure .other
  else if w = "return" then
    let _ ← attempt g.starExpressions
    pure .other
  else if w = "raise" then
    match ← attempt g.expression with
    | some _ =>
      if ← takeWord "from" then
        let _ ← g.expression
        pure .other
      else pure .other
    | none => pure .other
  else if w = "global" || w = "nonlocal" then
    let _ ← sepBy1 "," ident
    pure .other
  else if w = "assert" then
    let _ ← g.expression
    if ← takeOp "," then
      let _ ← g.expression
      pure .other
    else pure .other
  else if w = "yield" then .expr <$> yieldRest g
  else fail

def simpleStatement (g : Grammar) : Parser Stmt := fun ts =>
  match ts with
  | .keyword "import" :: rest => importModules rest
  | .keyword "from" :: rest => importFrom rest
  | .keyword "del" :: rest => deletion g rest
  | .keyword w :: rest => (otherSimple g w rest).or (expressionStatement g ts)
  | _ => expressionStatement g ts

def simpleStatements (g : Grammar) : Parser (List Stmt) := do
  let stmts ← sepBy1 ";" (simpleStatement g)
  let _ ← takeOp ";"
  token .newline
  pure stmts

/-! ## Compound statements -/

/-- The statements after a colon: a block, or simple statements on the same line. -/
def block (g : Grammar) : Parser (List Stmt) := do
  if ← takeToken .newline then
    token .indent
    let body ← g.statements
    token .dedent
    pure body
  else simpleStatements g

def colonBlock (g : Grammar) : Parser (List Stmt) := do
  op ":"
  block g

def elseBlock (g : Grammar) : Parser (List Stmt) := do
  if ← takeWord "else" then colonBlock g else pure []

def branch (g : Grammar) : Parser (List Stmt) := do
  let _ ← g.namedExpression
  colonBlock g

/-- A conditional statement after its keyword; each `elif` is a conditional inside the alternative of
the one before. -/
def ifStatement (g : Grammar) : Parser Stmt := do
  let body ← branch g
  let elifs ← many (do word "elif"; branch g)
  let orelse ← elseBlock g
  pure (.conditional body (elifs.foldr (fun b rest => [.conditional b rest]) orelse))

def whileStatement (g : Grammar) : Parser Stmt := do
  let _ ← branch g
  let _ ← elseBlock g
  pure .other

def forStatement (g : Grammar) : Parser Stmt := do
  let _ ← commaList1 g.target
  word "in"
  let _ ← g.starExpressions
  let _ ← colonBlock g
  let _ ← elseBlock g
  pure .other

def withItem (g : Grammar) : Parser Unit := do
  let _ ← g.expression
  if ← takeWord "as" then
    let _ ← g.target
    check ((← atOp ",") || (← atOp ")") || (← atOp ":"))
  else pure ()

def withItems (g : Grammar) : Parser Unit := do
  let bracketed ← attempt (do
    op "("
    let _ ← commaList1 (withItem g)
    op ")"
    check (← atOp ":"))
  match bracketed with
  | some _ => pure ()
  | none =>
    let _ ← sepBy1 "," (withItem g)
    pure ()

def withStatement (g : Grammar) : Parser Stmt := do
  withItems g
  let _ ← colonBlock g
  pure .other

/-- A handler of a `try` statement after its keyword; `starred` handlers take part of a group. -/
def handler (g : Grammar) (starred : Bool) : Parser (List Stmt) := do
  if starred then op "*" else pure ()
  if !starred && (← atOp ":") then colonBlock g
  else
    let _ ← g.expression
    let _ ← boundAs
    colonBlock g

def finallyBlock (g : Grammar) : Parser Bool := do
  if ← takeWord "finally" then
    let _ ← colonBlock g
    pure true
  else pure false

def tryStatement (g : Grammar) : Parser Stmt := do
  let body ← colonBlock g
  let starredHandlers ← many (do word "except"; handler g true)
  if !starredHandlers.isEmpty then
    let _ ← elseBlock g
    let _ ← finallyBlock g
    pure .other
  else
    let handlers ← many (do word "except"; handler g false)
    if handlers.isEmpty then
      check (← finallyBlock g)
      pure (.attempt body [] [])
    else
      let orelse ← elseBlock g
      let _ ← finallyBlock g
      pure (.attempt body handlers orelse)

def caseBlock (g : Grammar) : Parser Unit := do
  softWord "case"
  casePatterns g
  if ← takeWord "if" then
    let _ ← g.namedExpression
    let _ ← colonBlock g
    pure ()
  else
    let _ ← colonBlock g
    pure ()

def subject (g : Grammar) : Parser Unit := do
  match ← tupleOf g.starNamedExpression with
  | .starred _ => fail
  | _ => pure ()

/-- A `match` statement. Its words are names elsewhere, so a line that does not read as one may still
be a simple statement. -/
def matchStatement (g : Grammar) : Parser Stmt := do
  softWord "match"
  subject g
  op ":"
  token .newline
  token .indent
  let _ ← many1 (caseBlock g)
  token .dedent
  pure .other

/-! ## Declarations -/

def annotation? (g : Grammar) : Parser (Option Expr) := do
  if ← takeOp ":" then some <$> g.expression else pure none

def funcParam (g : Grammar) : Parser (Parameter × Bool) := do
  let name ← ident
  let annotation ← annotation? g
  if ← takeOp "=" then
    let _ ← g.expression
    pure (⟨name, annotation⟩, true)
  else pure (⟨name, annotation⟩, false)

def kwParam (g : Grammar) : Parser Parameter := do
  let name ← ident
  pure ⟨name, ← annotation? g⟩

def starParam (g : Grammar) : Parser Parameter := do
  let name ← ident
  if ← takeOp ":" then
    if ← takeOp "*" then
      let e ← g.bitOr
      pure ⟨name, some (.starred e)⟩
    else
      let e ← g.expression
      pure ⟨name, some e⟩
  else pure ⟨name, none⟩

def funcDef (g : Grammar) (decorators : List Expr) : Parser Stmt := do
  let name ← ident
  op "("
  let ps ← paramList (paramEntry (funcParam g) (starParam g) (kwParam g)) ")"
  op ")"
  let returns ← if ← takeOp "->" then some <$> g.expression else pure none
  let body ← colonBlock g
  pure (.funcDef decorators name ⟨ps.posOnly, ps.args, ps.varArg, ps.kwOnly, ps.kwArg⟩ returns body)

def classDef (g : Grammar) (decorators : List Expr) : Parser Stmt := do
  let name ← identifier
  let args ← if ← takeOp "(" then arguments g else pure []
  let body ← colonBlock g
  pure (.classDef decorators name (positionals args) body)

def decoratorList (g : Grammar) : Parser (List Expr) :=
  many (do
    op "@"
    let e ← g.namedExpression
    token .newline
    pure e)

def declaration (g : Grammar) : Parser Stmt := do
  let decorators ← decoratorList g
  if ← takeWord "class" then classDef g decorators
  else
    let _ ← takeWord "async"
    word "def"
    funcDef g decorators

def compoundStatement (g : Grammar) : Parser Stmt := fun ts =>
  match ts with
  | .keyword "def" :: _ | .keyword "class" :: _ | .op "@" :: _ => declaration g ts
  | .keyword "async" :: .keyword "def" :: _ => declaration g ts
  | .keyword "async" :: .keyword "with" :: rest => withStatement g rest
  | .keyword "async" :: .keyword "for" :: rest => forStatement g rest
  | .keyword "if" :: rest => ifStatement g rest
  | .keyword "with" :: rest => withStatement g rest
  | .keyword "for" :: rest => forStatement g rest
  | .keyword "try" :: rest => tryStatement g rest
  | .keyword "while" :: rest => whileStatement g rest
  | .name _ :: _ => matchStatement g ts
  | _ => none

def statement (g : Grammar) : Parser (List Stmt) := fun ts =>
  match compoundStatement g ts with
  | some (s, rest) => some ([s], rest)
  | none => simpleStatements g ts

def statements (g : Grammar) : Parser (List Stmt) := List.flatten <$> many1 (statement g)

/-! ## Layers -/

/-- Read an expression that stands alone in a text, as far as it goes. -/
def readEmbedded (g : Grammar) (cs : List Char) : Option Expr := do
  let tokens ← lex (cs ++ ['\n'])
  let (e, _) ← starExpressions g tokens
  pure e

def Grammar.above (g : Grammar) : Grammar where
  expression := Source.expression g
  namedExpression := Source.namedExpression g
  starNamedExpression := Source.starNamedExpression g
  starExpressions := Source.starExpressions g
  yieldOrStars := Source.yieldOrStars g
  disjunction := Source.disjunction g
  inversion := Source.inversion g
  bitOr := Source.bitOr g
  factor := Source.factor g
  target := Source.target g
  pattern := Source.pattern g
  statements := Source.statements g
  embedded := readEmbedded g

def grammar : Nat → Grammar
  | 0 => .nothing
  | n + 1 => (grammar n).above

/-! ## Whole texts -/

/-- The statements of a module, from its text with single line feeds. -/
def moduleOfChars? (cs : List Char) : Option (List Stmt) := do
  let tokens ← lex cs
  match tokens with
  | [.stop] => pure []
  | _ =>
    let (body, rest) ← statements (grammar cs.length) tokens
    guard (rest == [.stop])
    pure body

def expressionOfChars? (cs : List Char) : Option Expr := do
  let tokens ← lex cs
  let g := grammar cs.length
  let (e, rest) ← tupleOf (expression g) tokens
  guard (rest.dropWhile (· == .newline) == [.stop])
  pure e

end ModelReach.Source
