import ModelReach.Decimal.Binary64
import ModelReach.Source.Identifier
import ModelReach.Text.Basic

/-! Syntax trees of source modules. Expressions are kept whole, so that any of them can be written
out again; of statements only what binds names or declares classes has a form of its own. -/
namespace ModelReach.Source
set_option autoImplicit false

/-! ## Constants and operators -/

/-- The value of a literal. `marked` tells a text whose literal begins with the letter `u`. -/
inductive Constant where
  | none
  | bool (value : Bool)
  | ellipsis
  | int (value : Nat)
  | float (value : Binary64)
  | imaginary (value : Binary64)
  | text (value : Text) (marked : Bool)
  | bytes (value : List Nat)
  deriving DecidableEq, Repr

inductive BinaryOp where
  | add | sub | mul | matMul | div | mod | pow | shiftLeft | shiftRight
  | bitOr | bitXor | bitAnd | floorDiv
  deriving DecidableEq, Repr

inductive UnaryOp where
  | invert | not | plus | minus
  deriving DecidableEq, Repr

inductive LogicalOp where
  | and | or
  deriving DecidableEq, Repr

inductive CompareOp where
  | eq | ne | lt | le | gt | ge | is | isNot | elem | notElem
  deriving DecidableEq, Repr

inductive ComprehensionShape where
  | list | set | generator
  deriving DecidableEq, Repr

/-! ## Expressions -/

mutual

/-- An expression. A subscript with several indices has a tuple as its index; a call keeps positional
and keyword arguments apart. -/
inductive Expr where
  | constant (value : Constant)
  | name (id : String)
  | attribute (value : Expr) (attr : String)
  | subscript (value index : Expr)
  | call (func : Expr) (args : List Expr) (keywords : List Keyword)
  | binary (left : Expr) (op : BinaryOp) (right : Expr)
  | unary (op : UnaryOp) (operand : Expr)
  | logical (op : LogicalOp) (operands : List Expr)
  | compare (left : Expr) (links : List Link)
  | conditional (test body orelse : Expr)
  | lambda (posOnly args : List Param) (varArg : Option String) (kwOnly : List Param)
      (kwArg : Option String) (body : Expr)
  | tuple (elts : List Expr)
  | list (elts : List Expr)
  | set (elts : List Expr)
  | dict (items : List Item)
  | comprehension (shape : ComprehensionShape) (elt : Expr) (clauses : List Clause)
  | dictComprehension (key value : Expr) (clauses : List Clause)
  | starred (value : Expr)
  | named (target : String) (value : Expr)
  | await (value : Expr)
  | yield (value : Option Expr)
  | yieldFrom (value : Expr)
  | slice (lower upper step : Option Expr)
  | joined (parts : List Expr)
  | formatted (value : Expr) (conversion : Option Char) (spec : Option Expr)

inductive Keyword where
  | named (name : String) (value : Expr)
  | spread (value : Expr)

inductive Item where
  | pair (key value : Expr)
  | spread (value : Expr)

inductive Link where
  | mk (op : CompareOp) (right : Expr)

inductive Clause where
  | mk (isAsync : Bool) (target iter : Expr) (conditions : List Expr)

inductive Param where
  | mk (name : String) (default : Option Expr)

end

instance : Inhabited Expr := ⟨.name ""⟩

def Expr.text? : Expr → Option Text
  | .constant (.text t _) => some t
  | _ => none

def Expr.dottedName? : Expr → Option String
  | .name id => some id
  | .attribute value attr => value.dottedName?.map fun head => head ++ "." ++ attr
  | _ => none

/-- The elements of a subscript: those of a tuple, or the one index. -/
def Expr.indices : Expr → List Expr
  | .tuple elts => elts
  | index => [index]

mutual

def Expr.isTarget : Expr → Bool
  | .name _ | .attribute _ _ | .subscript _ _ => true
  | .starred value => value.isTarget
  | .tuple elts | .list elts => areTargets elts
  | _ => false

def areTargets : List Expr → Bool
  | [] => true
  | e :: rest => e.isTarget && areTargets rest

end

mutual

/-- Can the expression be deleted? Targets can, but for starred ones. -/
def Expr.isDeletable : Expr → Bool
  | .name _ | .attribute _ _ | .subscript _ _ => true
  | .tuple elts | .list elts => areDeletable elts
  | _ => false

def areDeletable : List Expr → Bool
  | [] => true
  | e :: rest => e.isDeletable && areDeletable rest

end

/-- Is the expression a single target: a name, an attribute or a subscript? -/
def Expr.isSingleTarget : Expr → Bool
  | .name _ | .attribute _ _ | .subscript _ _ => true
  | _ => false

/-! ## Statements -/

structure ImportName where
  name : String
  boundAs : Option String

structure Parameter where
  name : String
  typeExpr : Option Expr

structure Parameters where
  posOnly : List Parameter
  args : List Parameter
  varArg : Option Parameter
  kwOnly : List Parameter
  kwArg : Option Parameter

/-- A statement. Functions may be asynchronous; what has no form here binds no name that matters. -/
inductive Stmt where
  | expr (value : Expr)
  | assign (targets : List Expr) (value : Expr)
  | annotated (target annotation : Expr) (value : Option Expr)
  | importModules (names : List ImportName)
  | importFrom (level : Nat) (base : Option String) (names : List ImportName)
  | conditional (body orelse : List Stmt)
  | attempt (body : List Stmt) (handlers : List (List Stmt)) (orelse : List Stmt)
  | classDef (decorators : List Expr) (name : Identifier) (bases : List Expr) (body : List Stmt)
  | funcDef (decorators : List Expr) (name : String) (params : Parameters) (returns : Option Expr)
      (body : List Stmt)
  | other

end ModelReach.Source
