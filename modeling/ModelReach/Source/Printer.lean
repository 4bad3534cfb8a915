import ModelReach.Source.Quotation

/-! Expressions as source again, with blanks around binary operators and parentheses where the
precedence asks for them. -/
namespace ModelReach.Source
set_option autoImplicit false

/-! ## Precedence -/

namespace Precedence

def tuple : Nat := 2
def yield : Nat := 3
def test : Nat := 4
def or : Nat := 5
def and : Nat := 6
def not : Nat := 7
def compare : Nat := 8
def bitOr : Nat := 9
def bitXor : Nat := 10
def bitAnd : Nat := 11
def shift : Nat := 12
def sum : Nat := 13
def product : Nat := 14
def sign : Nat := 15
def power : Nat := 16
def await : Nat := 17
def atom : Nat := 18

end Precedence

/-- Put parentheses around an operator's text where the place asks for one that binds tighter. -/
def enclose (own place : Nat) (s : String) : String := if own < place then "(" ++ s ++ ")" else s

def BinaryOp.mark : BinaryOp → String
  | .add => "+"
  | .sub => "-"
  | .mul => "*"
  | .matMul => "@"
  | .div => "/"
  | .mod => "%"
  | .pow => "**"
  | .shiftLeft => "<<"
  | .shiftRight => ">>"
  | .bitOr => "|"
  | .bitXor => "^"
  | .bitAnd => "&"
  | .floorDiv => "//"

def BinaryOp.precedence : BinaryOp → Nat
  | .add | .sub => Precedence.sum
  | .mul | .matMul | .div | .mod | .floorDiv => Precedence.product
  | .pow => Precedence.power
  | .shiftLeft | .shiftRight => Precedence.shift
  | .bitOr => Precedence.bitOr
  | .bitXor => Precedence.bitXor
  | .bitAnd => Precedence.bitAnd

/-- What the operands must bind like: an operator groups to the left, powers to the right. -/
def BinaryOp.operandPrecedences (op : BinaryOp) : Nat × Nat :=
  if op = .pow then (op.precedence + 1, op.precedence) else (op.precedence, op.precedence + 1)

def UnaryOp.mark : UnaryOp → String
  | .invert => "~"
  | .not => "not "
  | .plus => "+"
  | .minus => "-"

def UnaryOp.precedence : UnaryOp → Nat
  | .not => Precedence.not
  | _ => Precedence.sign

def LogicalOp.mark : LogicalOp → String
  | .and => " and "
  | .or => " or "

def LogicalOp.precedence : LogicalOp → Nat
  | .and => Precedence.and
  | .or => Precedence.or

def CompareOp.mark : CompareOp → String
  | .eq => " == "
  | .ne => " != "
  | .lt => " < "
  | .le => " <= "
  | .gt => " > "
  | .ge => " >= "
  | .is => " is "
  | .isNot => " is not "
  | .elem => " in "
  | .notElem => " not in "

def ComprehensionShape.brackets : ComprehensionShape → String × String
  | .list => ("[", "]")
  | .set => ("\x7b", "\x7d")
  | .generator => ("(", ")")

/-! ## Parts -/

def commaSeparated (items : List String) : String := ", ".intercalate items

def tupleItems : List String → String
  | [item] => item ++ ","
  | items => commaSeparated items

/-- A constant that reads as an integer, so that a point after it would belong to the number. -/
def Expr.isIntegral : Expr → Bool
  | .constant (.int _) | .constant (.bool _) => true
  | _ => false

def Expr.isText : Expr → Bool
  | .constant (.text _ _) => true
  | _ => false

/-- The names and marks of a parameter list, in order. -/
def parameterItems (posOnly args : List String) (varArg : Option String) (kwOnly : List String)
    (kwArg : Option String) : List String :=
  posOnly ++ (if posOnly.isEmpty then [] else ["/"]) ++ args ++
    (match varArg with
      | some name => ["*" ++ name]
      | none => if kwOnly.isEmpty then [] else ["*"]) ++
    kwOnly ++ kwArg.toList.map ("**" ++ ·)

/-- Text inside an interpolated string, its braces doubled. -/
def doubleBraces (t : Text) : Text :=
  Text.expand '\x7d'.toNat ("\x7d\x7d".toList.map Char.toNat)
    (Text.expand '\x7b'.toNat ("\x7b\x7b".toList.map Char.toNat) t)

/-- A replacement inside an interpolated string, from the source of its expression. -/
def replacementText (source : String) (conversion : Option Char) (format : Option Text) :
    Except SourceFault Text :=
  if source.toList.contains '\\' then .error .backslashInside
  else
    let blank := if source.toList.head? = some '\x7b' then [' '] else []
    let conversion := match conversion with
      | some c => ['!', c]
      | none => []
    let format : Text := match format with
      | some t => ':'.toNat :: t
      | none => []
    .ok (Text.ofChars ('\x7b' :: blank ++ source.toList ++ conversion) ++ format ++
      ['\x7d'.toNat])

/-! ## Expressions -/

mutual

/-- An expression as source, in a place that asks for a precedence. In a `plain` place, inside an
interpolated string, backslashes are avoided. -/
def printExpr (plain : Bool) : Expr → Nat → Except SourceFault String
  | .constant c, _ => writeConstant plain c
  | .name id, _ => .ok id
  | .attribute value attr, _ => do
    let base ← printExpr plain value Precedence.atom
    pure (base ++ (if value.isIntegral then " ." else ".") ++ attr)
  | .subscript value (.tuple (e :: es)), _ => do
    let base ← printExpr plain value Precedence.atom
    let items ← printAll plain (e :: es)
    pure (base ++ "[" ++ tupleItems items ++ "]")
  | .subscript value index, _ => do
    let base ← printExpr plain value Precedence.atom
    let index ← printExpr plain index Precedence.test
    pure (base ++ "[" ++ index ++ "]")
  | .call func args keywords, _ => do
    let func ← printExpr plain func Precedence.atom
    let args ← printAll plain args
    let keywords ← printKeywords plain keywords
    pure (func ++ "(" ++ commaSeparated (args ++ keywords) ++ ")")
  | .binary left op right, place => do
    let left ← printExpr plain left op.operandPrecedences.1
    let right ← printExpr plain right op.operandPrecedences.2
    pure (enclose op.precedence place (left ++ " " ++ op.mark ++ " " ++ right))
  | .unary op operand, place => do
    let operand ← printExpr plain operand op.precedence
    pure (enclose op.precedence place (op.mark ++ operand))
  | .logical op operands, place => do
    let operands ← printRising plain operands (op.precedence + 1)
    pure (enclose op.precedence place (op.mark.intercalate operands))
  | .compare left links, place => do
    let left ← printExpr plain left (Precedence.compare + 1)
    let links ← printLinks plain links
    pure (enclose Precedence.compare place (left ++ String.join links))
  | .conditional test body orelse, place => do
    let body ← printExpr plain body (Precedence.test + 1)
    let test ← printExpr plain test (Precedence.test + 1)
    let orelse ← printExpr plain orelse Precedence.test
    pure (enclose Precedence.test place (body ++ " if " ++ test ++ " else " ++ orelse))
  | .lambda posOnly args varArg kwOnly kwArg body, place => do
    let posOnly ← printParams plain posOnly
    let args ← printParams plain args
    let kwOnly ← printParams plain kwOnly
    let items := parameterItems posOnly args varArg kwOnly kwArg
    let body ← printExpr plain body Precedence.test
    let head := if items.isEmpty then "lambda" else "lambda " ++ commaSeparated items
    pure (enclose Precedence.test place (head ++ ": " ++ body))
  | .tuple elts, place => do
    let items ← printAll plain elts
    pure (if items.isEmpty then "()" else enclose Precedence.tuple place (tupleItems items))
  | .list elts, _ => do
    let items ← printAll plain elts
    pure ("[" ++ commaSeparated items ++ "]")
  | .set elts, _ => do
    let items ← printAll plain elts
    pure ("\x7b" ++ (if items.isEmpty then "*()" else commaSeparated items) ++ "\x7d")
  | .dict items, _ => do
    let items ← printItems plain items
    pure ("\x7b" ++ commaSeparated items ++ "\x7d")
  | .comprehension shape elt clauses, _ => do
    let elt ← printExpr plain elt Precedence.test
    let clauses ← printClauses plain clauses
    pure (shape.brackets.1 ++ elt ++ String.join clauses ++ shape.brackets.2)
  | .dictComprehension key value clauses, _ => do
    let key ← printExpr plain key Precedence.test
    let value ← printExpr plain value Precedence.test
    let clauses ← printClauses plain clauses
    pure ("\x7b" ++ key ++ ": " ++ value ++ String.join clauses ++ "\x7d")
  | .starred value, _ => do
    let value ← printExpr plain value Precedence.bitOr
    pure ("*" ++ value)
  | .named target value, place => do
    let value ← printExpr plain value Precedence.atom
    pure (enclose Precedence.tuple place (target ++ " := " ++ value))
  | .await value, place => do
    let value ← printExpr plain value Precedence.atom
    pure (enclose Precedence.await place ("await " ++ value))
  | .yield none, place => .ok (enclose Precedence.yield place "yield")
  | .yield (some value), place => do
    let value ← printExpr plain value Precedence.atom
    pure (enclose Precedence.yield place ("yield " ++ value))
  | .yieldFrom value, place => do
    let value ← printExpr plain value Precedence.atom
    pure (enclose Precedence.yield place ("yield from " ++ value))
  | .slice lower upper step, _ => do
    let lower ← printBound plain lower
    let upper ← printBound plain upper
    let step' ← printBound plain step
    pure (lower ++ ":" ++ upper ++ if step.isSome then ":" ++ step' else "")
  | .joined parts, _ => do
    let texts ← printParts parts
    pure ("f" ++ if plain then frugallyQuoted texts.flatten
      else jointlyQuoted (texts.zip (parts.map Expr.isText)))
  | .formatted value conversion format, _ => do
    let source ← printExpr true value (Precedence.test + 1)
    let format ← printFormat format
    let t ← replacementText source conversion format
    pure ("f" ++ frugallyQuoted t)

def printAll (plain : Bool) : List Expr → Except SourceFault (List String)
  | [] => .ok []
  | e :: rest => do
    let s ← printExpr plain e Precedence.test
    let more ← printAll plain rest
    pure (s :: more)

/-- The operands of a logical operator: each further one must bind tighter than the one before. -/
def printRising (plain : Bool) : List Expr → Nat → Except SourceFault (List String)
  | [], _ => .ok []
  | e :: rest, place => do
    let s ← printExpr plain e (min place Precedence.atom)
    let more ← printRising plain rest (place + 1)
    pure (s :: more)

def printBound (plain : Bool) : Option Expr → Except SourceFault String
  | none => .ok ""
  | some e => printExpr plain e Precedence.test

def printKeywords (plain : Bool) : List Keyword → Except SourceFault (List String)
  | [] => .ok []
  | .named name value :: rest => do
    let s ← printExpr plain value Precedence.test
    let more ← printKeywords plain rest
    pure ((name ++ "=" ++ s) :: more)
  | .spread value :: rest => do
    let s ← printExpr plain value Precedence.test
    let more ← printKeywords plain rest
    pure (("**" ++ s) :: more)

def printItems (plain : Bool) : List Item → Except SourceFault (List String)
  | [] => .ok []
  | .pair key value :: rest => do
    let k ← printExpr plain key Precedence.test
    let v ← printExpr plain value Precedence.test
    let more ← printItems plain rest
    pure ((k ++ ": " ++ v) :: more)
  | .spread value :: rest => do
    let s ← printExpr plain value Precedence.bitOr
    let more ← printItems plain rest
    pure (("**" ++ s) :: more)

def printLinks (plain : Bool) : List Link → Except SourceFault (List String)
  | [] => .ok []
  | .mk op right :: rest => do
    let s ← printExpr plain right (Precedence.compare + 1)
    let more ← printLinks plain rest
    pure ((op.mark ++ s) :: more)

def printClauses (plain : Bool) : List Clause → Except SourceFault (List String)
  | [] => .ok []
  | .mk isAsync target iter conditions :: rest => do
    let target ← printExpr plain target Precedence.tuple
    let iter ← printExpr plain iter (Precedence.test + 1)
    let conditions ← printConditions plain conditions
    let more ← printClauses plain rest
    pure (((if isAsync then " async for " else " for ") ++ target ++ " in " ++ iter ++
      String.join conditions) :: more)

def printConditions (plain : Bool) : List Expr → Except SourceFault (List String)
  | [] => .ok []
  | e :: rest => do
    let s ← printExpr plain e (Precedence.test + 1)
    let more ← printConditions plain rest
    pure ((" if " ++ s) :: more)

def printParams (plain : Bool) : List Param → Except SourceFault (List String)
  | [] => .ok []
  | .mk name default :: rest => do
    let s ← printBound plain default
    let more ← printParams plain rest
    pure ((if default.isSome then name ++ "=" ++ s else name) :: more)

def printPart : Expr → Except SourceFault Text
  | .constant (.text t _) => .ok (doubleBraces t)
  | .formatted value conversion format => do
    let source ← printExpr true value (Precedence.test + 1)
    let format ← printFormat format
    replacementText source conversion format
  | .joined parts => do
    let texts ← printParts parts
    pure texts.flatten
  | _ => .ok []

def printParts : List Expr → Except SourceFault (List Text)
  | [] => .ok []
  | e :: rest => do
    let t ← printPart e
    let more ← printParts rest
    pure (t :: more)

def printFormat : Option Expr → Except SourceFault (Option Text)
  | none => .ok none
  | some e => do
    let t ← printPart e
    pure (some t)

end

def Expr.print (e : Expr) : Except SourceFault String := printExpr false e Precedence.test

end ModelReach.Source
