import ModelReach.Facts.Basic
import ModelReach.Source.Fault
import ModelReach.Source.Syntax

/-! The values of members: literals, as far as they can be evaluated without running anything. -/
namespace ModelReach.Facts
set_option autoImplicit false

open Source (Expr Item Constant SourceFault)

/-! ## Numbers -/

inductive Number where
  | int (value : Int)
  | float (value : Binary64)
  | imaginary

def unsignedNumber? : Expr → Option Number
  | .constant (.int n) => some (.int n)
  | .constant (.float x) => some (.float x)
  | .constant (.imaginary _) => some .imaginary
  | _ => none

def signedNumber? : Expr → Option Number
  | .unary .plus e => unsignedNumber? e
  | .unary .minus e => (unsignedNumber? e).map fun n => match n with
    | .int n => .int (-n)
    | .float x => .float x.neg
    | .imaginary => .imaginary
  | e => unsignedNumber? e

def isTooLarge (n : Int) : Bool :=
  match Binary64.ofInt n with
  | .infinite _ => true
  | _ => false

/-! ## Evaluation -/

/-- The outcome of an evaluation: a plain value, or a value of another kind that may or may not be an
element of a set. -/
inductive Evaluated where
  | plain (value : MemberValue)
  | other (hashable : Bool)

def Evaluated.isHashable : Evaluated → Bool
  | .plain _ => true
  | .other hashable => hashable

/-- Why an expression has no value: it is no literal, or one that cannot be built; the latter may end
the run. -/
inductive EvalFault where
  | notLiteral
  | tooLarge

def constantValue : Constant → Evaluated
  | .none => .plain .absent
  | .bool b => .plain (.bool b)
  | .int n => .plain (.int n)
  | .float x => .plain (.float x)
  | .text t _ => .plain (.text t)
  | .imaginary _ | .ellipsis | .bytes _ => .other true

def numberValue : Number → Evaluated
  | .int n => .plain (.int n)
  | .float x => .plain (.float x)
  | .imaginary => .other true

def complexValue (left right : Expr) : Except EvalFault Evaluated :=
  match signedNumber? left, unsignedNumber? right with
  | some (.int n), some .imaginary => if isTooLarge n then .error .tooLarge else .ok (.other true)
  | some (.float _), some .imaginary => .ok (.other true)
  | _, _ => .error .notLiteral

mutual

def evaluate : Expr → Except EvalFault Evaluated
  | .constant c => .ok (constantValue c)
  | .tuple elts => do
    let hashable ← evaluateAll elts
    pure (.other hashable)
  | .list elts => do
    let _ ← evaluateAll elts
    pure (.other false)
  | .set elts => do
    evaluateElements elts
    pure (.other false)
  | .call (.name "set") [] [] => .ok (.other false)
  | .dict items => do
    evaluateItems items
    pure (.other false)
  | .binary left .add right | .binary left .sub right => complexValue left right
  | e =>
    match signedNumber? e with
    | some n => .ok (numberValue n)
    | none => .error .notLiteral

/-- Evaluate expressions; can all of them be elements of a set? -/
def evaluateAll : List Expr → Except EvalFault Bool
  | [] => .ok true
  | e :: rest => do
    let v ← evaluate e
    let hashable ← evaluateAll rest
    pure (v.isHashable && hashable)

def evaluateElements : List Expr → Except EvalFault Unit
  | [] => .ok ()
  | e :: rest => do
    let v ← evaluate e
    if v.isHashable then evaluateElements rest else .error .notLiteral

def evaluateItems : List Item → Except EvalFault Unit
  | [] => .ok ()
  | .pair key value :: rest => do
    let k ← evaluate key
    let _ ← evaluate value
    if k.isHashable then evaluateItems rest else .error .notLiteral
  | .spread _ :: _ => .error .notLiteral

end

def memberValue (e : Expr) : Except SourceFault MemberValue :=
  match evaluate e with
  | .ok (.plain value) => .ok value
  | .ok (.other _) => .ok .absent
  | .error .notLiteral => .ok .absent
  | .error .tooLarge => .error .integerTooLarge

end ModelReach.Facts
