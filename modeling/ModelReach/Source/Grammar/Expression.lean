import ModelReach.Source.Grammar.Basic

/-! The layer of expressions. Every parser here takes the grammar `g` of the layer below and goes
through it for what stands in brackets or after an operator that binds to the right. -/
namespace ModelReach.Source
set_option autoImplicit false

open Source.Parser

/-! ## Comprehensions, arguments and indices -/

def clause (g : Grammar) : Parser Clause := do
  let isAsync ← takeWord "async"
  word "for"
  let target ← targetList
  word "in"
  let iter ← g.disjunction
  let conditions ← many (do word "if"; g.disjunction)
  pure (.mk isAsync target iter conditions)
where
  /-- The targets before `in`: one, or several with commas. -/
  targetList : Parser Expr := do
    let elts ← sepBy1 "," g.target
    let comma ← takeOp ","
    match elts with
    | [e] => pure (if comma then .tuple [e] else e)
    | _ => pure (.tuple elts)

def atClause : Parser Bool := do
  pure ((← atWord "for") || (← atWord "async"))

def clauses (g : Grammar) : Parser (List Clause) := many1 (clause g)

inductive Argument where
  | positional (value : Expr)
  | starred (value : Expr)
  | keyword (name : String) (value : Expr)
  | spread (value : Expr)

def argument (g : Grammar) : Parser Argument := fun ts =>
  match ts with
  | .op "*" :: rest => (do pure (.starred (← g.expression)) : Parser Argument) rest
  | .op "**" :: rest => (do pure (.spread (← g.expression)) : Parser Argument) rest
  | .name id :: .op "=" :: rest => (do pure (.keyword id.text (← g.expression)) : Parser Argument) rest
  | _ => (do pure (.positional (← g.namedExpression)) : Parser Argument) ts

/-- Are the arguments in a lawful order? No positional one follows a keyword, and after a spread
mapping there are keywords and spread mappings only. -/
def lawfulOrder (keyword spread : Bool) : List Argument → Bool
  | [] => true
  | .positional _ :: rest => !keyword && !spread && lawfulOrder keyword spread rest
  | .starred _ :: rest => !spread && lawfulOrder keyword spread rest
  | .keyword _ _ :: rest => lawfulOrder true spread rest
  | .spread _ :: rest => lawfulOrder keyword true rest

def positionals (args : List Argument) : List Expr :=
  args.filterMap fun a => match a with
    | .positional e => some e
    | .starred e => some (.starred e)
    | _ => none

def keywordArguments (args : List Argument) : List Keyword :=
  args.filterMap fun a => match a with
    | .keyword name e => some (.named name e)
    | .spread e => some (.spread e)
    | _ => none

def arguments (g : Grammar) : Parser (List Argument) := do
  if ← takeOp ")" then pure []
  else
    let args ← commaList1 (argument g)
    op ")"
    check (lawfulOrder false false args)
    pure args

/-- A call's arguments after the opening bracket; a sole comprehension needs no brackets of its own. -/
def callArguments (g : Grammar) (func : Expr) : Parser Expr := do
  if ← takeOp ")" then pure (.call func [] [])
  else
    let first ← argument g
    match first, ← atClause with
    | .positional elt, true => do
      let cs ← clauses g
      op ")"
      pure (.call func [.comprehension .generator elt cs] [])
    | _, _ => do
      let rest ← many (do op ","; argument g)
      let _ ← takeOp ","
      op ")"
      let args := first :: rest
      check (lawfulOrder false false args)
      pure (.call func (positionals args) (keywordArguments args))

def sliceBound (g : Grammar) : Parser (Option Expr) := do
  if (← atOp ":") || (← atOp ",") || (← atOp "]") then pure none
  else some <$> g.expression

def sliceAfter (g : Grammar) (lower : Option Expr) : Parser Expr := do
  let upper ← sliceBound g
  let step ← if ← takeOp ":" then sliceBound g else pure none
  pure (.slice lower upper step)

/-- One index: a slice, an expression, or a starred expression. -/
def index (g : Grammar) : Parser Expr := do
  if ← takeOp ":" then sliceAfter g none
  else if ← takeOp "*" then .starred <$> g.expression
  else
    let binds ← atBinding
    let e ← g.namedExpression
    if !binds && (← takeOp ":") then sliceAfter g (some e) else pure e

/-- The indices of a subscript up to the closing bracket. A single starred index makes a tuple too. -/
def indexList (g : Grammar) : Parser Expr := do
  let first ← index g
  let rest ← many (do op ","; index g)
  let comma ← takeOp ","
  op "]"
  match first, rest, comma with
  | .starred _, [], _ => pure (.tuple [first])
  | _, [], false => pure first
  | _, _, _ => pure (.tuple (first :: rest))

/-! ## Atoms -/

def starElements (g : Grammar) : Parser (List Expr) := commaList1 g.starNamedExpression

def afterParen (g : Grammar) : Parser Expr := do
  if ← takeOp ")" then pure (.tuple [])
  else if ← atWord "yield" then
    let e ← g.yieldOrStars
    op ")"
    pure e
  else
    let first ← g.starNamedExpression
    let isStarred := match first with
      | .starred _ => true
      | _ => false
    if ← takeOp "," then
      if ← takeOp ")" then pure (.tuple [first])
      else
        let rest ← starElements g
        op ")"
        pure (.tuple (first :: rest))
    else
      check (!isStarred)
      if ← atClause then
        let cs ← clauses g
        op ")"
        pure (.comprehension .generator first cs)
      else
        op ")"
        pure first

def afterBracket (g : Grammar) : Parser Expr := do
  if ← takeOp "]" then pure (.list [])
  else
    let first ← g.starNamedExpression
    match first, ← atClause with
    | .starred _, true => fail
    | _, true => do
      let cs ← clauses g
      op "]"
      pure (.comprehension .list first cs)
    | _, false => do
      let rest ← many (do op ","; g.starNamedExpression)
      let _ ← takeOp ","
      op "]"
      pure (.list (first :: rest))

def dictItem (g : Grammar) : Parser Item := do
  if ← takeOp "**" then .spread <$> g.bitOr
  else
    let key ← g.expression
    op ":"
    let value ← g.expression
    pure (.pair key value)

def dictRest (g : Grammar) (first : Item) : Parser Expr := do
  let rest ← many (do op ","; dictItem g)
  let _ ← takeOp ","
  op "\x7d"
  pure (.dict (first :: rest))

def afterBrace (g : Grammar) : Parser Expr := do
  if ← takeOp "\x7d" then pure (.dict [])
  else if ← atOp "**" then dictRest g (← dictItem g)
  else
    let isPlain := !((← atBinding) || (← atOp "*"))
    let first ← g.starNamedExpression
    if isPlain && (← takeOp ":") then
      let value ← g.expression
      if ← atClause then
        let cs ← clauses g
        op "\x7d"
        pure (.dictComprehension first value cs)
      else dictRest g (.pair first value)
    else
      match first, ← atClause with
      | .starred _, true => fail
      | _, true => do
        let cs ← clauses g
        op "\x7d"
        pure (.comprehension .set first cs)
      | _, false => do
        let rest ← many (do op ","; g.starNamedExpression)
        let _ ← takeOp ","
        op "\x7d"
        pure (.set (first :: rest))

def stringLiteral : Parser StringToken
  | .string literal :: rest => some (literal, rest)
  | _ => none

def strings (g : Grammar) : Parser Expr := do
  let literals ← many1 stringLiteral
  match joinLiterals g.embedded literals with
  | some e => pure e
  | none => fail

def keywordConstant? (w : String) : Option Constant :=
  if w = "None" then some .none
  else if w = "True" then some (.bool true)
  else if w = "False" then some (.bool false)
  else none

def atom (g : Grammar) : Parser Expr := fun ts =>
  match ts with
  | .name id :: rest => some (.name id.text, rest)
  | .number value :: rest => some (.constant value, rest)
  | .string _ :: _ => strings g ts
  | .keyword w :: rest => (keywordConstant? w).map fun c => (.constant c, rest)
  | .op "(" :: rest => afterParen g rest
  | .op "[" :: rest => afterBracket g rest
  | .op "\x7b" :: rest => afterBrace g rest
  | .op "..." :: rest => some (.constant .ellipsis, rest)
  | _ => none

/-! ## Operators -/

def trailer (g : Grammar) (e : Expr) : Parser Expr := fun ts =>
  match ts with
  | .op "." :: rest => (do pure (.attribute e (← ident)) : Parser Expr) rest
  | .op "(" :: rest => callArguments g e rest
  | .op "[" :: rest => (do pure (.subscript e (← indexList g)) : Parser Expr) rest
  | _ => none

def primary (g : Grammar) : Parser Expr := do
  extend (trailer g) (← atom g)

def awaited (g : Grammar) : Parser Expr := do
  if ← takeWord "await" then .await <$> primary g else primary g

def power (g : Grammar) : Parser Expr := do
  let base ← awaited g
  if ← takeOp "**" then
    let exponent ← g.factor
    pure (.binary base .pow exponent)
  else pure base

def factor (g : Grammar) : Parser Expr := fun ts =>
  match ts with
  | .op "+" :: rest => (.unary .plus <$> g.factor) rest
  | .op "-" :: rest => (.unary .minus <$> g.factor) rest
  | .op "~" :: rest => (.unary .invert <$> g.factor) rest
  | _ => power g ts

def binaryLevel (ops : List (String × BinaryOp)) (operand : Parser Expr) : Parser Expr := do
  extend (fun left ts => match ts with
    | .op mark :: rest =>
      match ops.lookup mark with
      | some o => (do pure (.binary left o (← operand)) : Parser Expr) rest
      | none => none
    | _ => none) (← operand)

def term (g : Grammar) : Parser Expr :=
  binaryLevel [("*", .mul), ("/", .div), ("//", .floorDiv), ("%", .mod), ("@", .matMul)] (factor g)

def sum (g : Grammar) : Parser Expr := binaryLevel [("+", .add), ("-", .sub)] (term g)

def shift (g : Grammar) : Parser Expr :=
  binaryLevel [("<<", .shiftLeft), (">>", .shiftRight)] (sum g)

def bitAnd (g : Grammar) : Parser Expr := binaryLevel [("&", .bitAnd)] (shift g)

def bitXor (g : Grammar) : Parser Expr := binaryLevel [("^", .bitXor)] (bitAnd g)

def bitOr (g : Grammar) : Parser Expr := binaryLevel [("|", .bitOr)] (bitXor g)

def compareOp : Parser CompareOp
  | .op "==" :: rest => some (.eq, rest)
  | .op "!=" :: rest => some (.ne, rest)
  | .op "<" :: rest => some (.lt, rest)
  | .op "<=" :: rest => some (.le, rest)
  | .op ">" :: rest => some (.gt, rest)
  | .op ">=" :: rest => some (.ge, rest)
  | .keyword "in" :: rest => some (.elem, rest)
  | .keyword "not" :: .keyword "in" :: rest => some (.notElem, rest)
  | .keyword "is" :: .keyword "not" :: rest => some (.isNot, rest)
  | .keyword "is" :: rest => some (.is, rest)
  | _ => none

def comparison (g : Grammar) : Parser Expr := do
  let left ← bitOr g
  let links ← many (do
    let o ← compareOp
    let right ← bitOr g
    pure (Link.mk o right))
  pure (if links.isEmpty then left else .compare left links)

def inversion (g : Grammar) : Parser Expr := do
  if ← takeWord "not" then .unary .not <$> g.inversion else comparison g

def logicalLevel (w : String) (o : LogicalOp) (operand : Parser Expr) : Parser Expr := do
  let first ← operand
  let rest ← many (do word w; operand)
  pure (if rest.isEmpty then first else .logical o (first :: rest))

def conjunction (g : Grammar) : Parser Expr := logicalLevel "and" .and (inversion g)

def disjunction (g : Grammar) : Parser Expr := logicalLevel "or" .or (conjunction g)

/-! ## Parameters -/

inductive ParamEntry (α : Type) where
  | plain (param : α) (hasDefault : Bool)
  | slash
  | star
  | varArg (param : α)
  | kwArg (param : α)

structure ParamList (α : Type) where
  posOnly : List α
  args : List α
  varArg : Option α
  kwOnly : List α
  kwArg : Option α

def defaultsLast {α : Type} (seen : Bool) : List (ParamEntry α) → Bool
  | [] => true
  | .plain _ hasDefault :: rest => (hasDefault || !seen) && defaultsLast hasDefault rest
  | _ :: rest => defaultsLast seen rest

/-- The parameters of plain entries; none if there is a mark among them. -/
def plainParams {α : Type} (entries : List (ParamEntry α)) : Option (List α) :=
  entries.mapM fun e => match e with
    | .plain p _ => some p
    | _ => none

def ParamEntry.isSlash {α : Type} : ParamEntry α → Bool
  | .slash => true
  | _ => false

def ParamEntry.isStar {α : Type} : ParamEntry α → Bool
  | .star | .varArg _ | .kwArg _ => true
  | _ => false

/-- Sort the entries after the positional ones: a star with parameters after it, or a collecting
parameter; then perhaps one that collects keywords, at the very end. -/
def sortStars {α : Type} (positional : List α × List α) (entries : List (ParamEntry α)) :
    Option (ParamList α) :=
  let (body, kwArg) := match entries.getLast? with
    | some (.kwArg p) => (entries.dropLast, some p)
    | _ => (entries, none)
  match body with
  | [] => some ⟨positional.1, positional.2, none, [], kwArg⟩
  | .varArg p :: rest =>
    (plainParams rest).map fun ks => ⟨positional.1, positional.2, some p, ks, kwArg⟩
  | .star :: rest =>
    (plainParams rest).bind fun ks =>
      if ks.isEmpty then none else some ⟨positional.1, positional.2, none, ks, kwArg⟩
  | _ => none

def sortParams {α : Type} (entries : List (ParamEntry α)) : Option (ParamList α) :=
  let front := entries.takeWhile fun e => !e.isStar
  let back := entries.dropWhile fun e => !e.isStar
  if !defaultsLast false front then none
  else
    let before := front.takeWhile fun e => !e.isSlash
    match front.dropWhile fun e => !e.isSlash with
    | [] => (plainParams before).bind fun args => sortStars ([], args) back
    | _ :: after =>
      if before.isEmpty then none
      else (plainParams before).bind fun posOnly =>
        (plainParams after).bind fun args => sortStars (posOnly, args) back

/-- One entry of a parameter list; collecting parameters are read by `starParam`. -/
def paramEntry {α : Type} (param : Parser (α × Bool)) (starParam kwParam : Parser α) :
    Parser (ParamEntry α) := do
  if ← takeOp "/" then pure .slash
  else if ← takeOp "**" then .kwArg <$> kwParam
  else if ← takeOp "*" then
    if ← atOp "," then pure .star else .varArg <$> starParam
  else
    let (p, hasDefault) ← param
    pure (.plain p hasDefault)

def paramList {α : Type} (entry : Parser (ParamEntry α)) (closing : String) :
    Parser (ParamList α) := do
  if ← atOp closing then pure ⟨[], [], none, [], none⟩
  else
    let entries ← commaList1 entry
    match sortParams entries with
    | some ps => pure ps
    | none => fail

def lambdaParam (g : Grammar) : Parser (Param × Bool) := do
  let name ← ident
  if ← takeOp "=" then
    let value ← g.expression
    pure (.mk name (some value), true)
  else pure (.mk name none, false)

def lambdaRest (g : Grammar) : Parser Expr := do
  let bare : Parser Param := do pure (.mk (← ident) none)
  let ps ← paramList (paramEntry (lambdaParam g) bare bare) ":"
  op ":"
  let body ← g.expression
  let nameOf : Param → String := fun p => match p with
    | .mk name _ => name
  pure (.lambda ps.posOnly ps.args (ps.varArg.map nameOf) ps.kwOnly (ps.kwArg.map nameOf) body)

/-! ## Whole expressions -/

def expression (g : Grammar) : Parser Expr := do
  if ← takeWord "lambda" then lambdaRest g
  else
    let body ← disjunction g
    let tail ← attempt (do
      word "if"
      let test ← g.disjunction
      word "else"
      let orelse ← g.expression
      pure (test, orelse))
    match tail with
    | some (test, orelse) => pure (.conditional test body orelse)
    | none => pure body

def namedExpression (g : Grammar) : Parser Expr := fun ts =>
  match ts with
  | .name id :: .op ":=" :: rest => (.named id.text <$> g.expression) rest
  | _ => (do
    let e ← expression g
    check (!(← atOp ":="))
    pure e : Parser Expr) ts

def starNamedExpression (g : Grammar) : Parser Expr := do
  if ← takeOp "*" then .starred <$> g.bitOr else namedExpression g

def starExpression (g : Grammar) : Parser Expr := do
  if ← takeOp "*" then .starred <$> g.bitOr else expression g

/-- Elements with commas between them make a tuple, and so does one with a comma after it. -/
def tupleOf (element : Parser Expr) : Parser Expr := do
  let first ← element
  let rest ← many (do op ","; element)
  let comma ← takeOp ","
  pure (if rest.isEmpty && !comma then first else .tuple (first :: rest))

def starExpressions (g : Grammar) : Parser Expr := tupleOf (starExpression g)

def yieldRest (g : Grammar) : Parser Expr := do
  if ← takeWord "from" then .yieldFrom <$> g.expression
  else .yield <$> attempt g.starExpressions

def yieldOrStars (g : Grammar) : Parser Expr := do
  if ← takeWord "yield" then yieldRest g else starExpressions g

/-- A target of a loop or of a `with` item: a name, an attribute, a subscript, a display of targets, or
a starred target. -/
def target (g : Grammar) : Parser Expr := do
  if ← takeOp "*" then
    let e ← primary g
    check e.isTarget
    pure (.starred e)
  else
    let e ← primary g
    check e.isTarget
    pure e

end ModelReach.Source
