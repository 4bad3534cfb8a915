import ModelReach.Facts.Scope
import ModelReach.Facts.TypeRef
import ModelReach.Source.Reading

/-! Annotations as type references. A string in an annotation stands for the expression that it holds,
at any depth; reading is a parameter, `read`, so that what follows depends on its laws alone. -/
namespace ModelReach.Facts
set_option autoImplicit false

open Source (Expr SourceFault)

abbrev Reader := Text → Except SourceFault Expr

abbrev RefResult := Except SourceFault TypeRef

/-! ## References -/

def isEllipsis : Expr → Bool
  | .constant .ellipsis => true
  | _ => false

/-- The result for the first element; without an element there is no index. -/
def firstResult (results : List (Bool × RefResult)) : RefResult :=
  match results with
  | [] => .error .noIndex
  | (_, r) :: _ => r

/-- The results of all elements that are no bare ellipsis, or the first fault. -/
def argumentResults : List (Bool × RefResult) → Except SourceFault (List TypeRef)
  | [] => .ok []
  | (true, _) :: rest => argumentResults rest
  | (false, r) :: rest => do
    let ref ← r
    let refs ← argumentResults rest
    pure (ref :: refs)

/-- The reference for a subscript, from the origin and what its elements give; each element comes with
a flag that tells whether it is a bare ellipsis. -/
def subscriptRef (origin : String) (results : List (Bool × RefResult)) : RefResult :=
  if origin = annotatedOrigin then firstResult results
  else if origin = literalOrigin then .ok (.generic origin [])
  else if arrayOrigins.contains origin then do
    let element ← firstResult results
    pure (.array element (setOrigins.contains origin))
  else match tupleOrigins.contains origin, results with
  | true, [(_, element), (true, _)] => do
    let element ← element
    pure (.array element false)
  | _, _ => do
    let args ← argumentResults results
    pure (.generic origin args)

def joinAlternatives : List TypeRef → TypeRef
  | [ref] => ref
  | refs => .generic unionOrigin refs

def constantRef : Source.Constant → RefResult
  | .none => .ok (.named "builtins.None")
  | c => do
    let text ← c.describe
    pure (.named text)

mutual

/-- The alternatives of an expression: the operands of a `|` chain, or the one reference. Strings are
left to `literal`. -/
def alternatives (s : Scope) (literal : Text → RefResult) :
    Expr → Except SourceFault (List TypeRef)
  | .constant (.text t _) => do
    let ref ← literal t
    pure [ref]
  | .constant c => do
    let ref ← constantRef c
    pure [ref]
  | .binary left .bitOr right => do
    let before ← alternatives s literal left
    let after ← alternatives s literal right
    pure (before ++ after)
  | .subscript value (.tuple elts) => do
    let origin ← s.origin value
    let ref ← subscriptRef origin (elementResults s literal elts)
    pure [ref]
  | .subscript value index => do
    let origin ← s.origin value
    let result := do
      let refs ← alternatives s literal index
      pure (joinAlternatives refs)
    let ref ← subscriptRef origin [(isEllipsis index, result)]
    pure [ref]
  | e => do
    let name ← s.origin e
    pure [.named name]

def elementResults (s : Scope) (literal : Text → RefResult) : List Expr → List (Bool × RefResult)
  | [] => []
  | e :: rest =>
    let result := do
      let refs ← alternatives s literal e
      pure (joinAlternatives refs)
    (isEllipsis e, result) :: elementResults s literal rest

end

def exprRef (s : Scope) (literal : Text → RefResult) (e : Expr) : RefResult := do
  let refs ← alternatives s literal e
  pure (joinAlternatives refs)

/-- The reference for an expression that is not read again if it is a string. -/
def unquotedRef (s : Scope) (literal : Text → RefResult) (e : Expr) : RefResult :=
  match e.text? with
  | some t => .ok (.named (Text.quoted t))
  | none => exprRef s literal e

/-- The reference for a string: that of the expression in it, or the quoted string if there is none.
Each reading finds shorter strings, so as many readings as the string has characters are enough. -/
def literalRef (read : Reader) (s : Scope) : Nat → Text → RefResult
  | 0, t => .ok (.named (Text.quoted t))
  | n + 1, t =>
    match read t with
    | .ok e => unquotedRef s (literalRef read s n) e
    | .error .malformed => .ok (.named (Text.quoted t))
    | .error fault => .error fault

def stringRef (read : Reader) (s : Scope) (t : Text) : RefResult :=
  literalRef read s (t.length + 1) t

def toRef (read : Reader) (s : Scope) (e : Expr) : RefResult := exprRef s (stringRef read s) e

/-! ## Annotations with tags -/

abbrev TaggedResult := Except SourceFault (TypeRef × List String)

/-- The tag of a piece of metadata: a text, a name, or the name that is called. -/
def metadataTag (e : Expr) : Option String :=
  let e := match e with
    | .call func _ _ => func
    | e => e
  match e.text? with
  | some t => some t.toString
  | none => e.dottedName?

def metadataTags (metadata : List Expr) : List String :=
  (metadata.filterMap metadataTag).filter (· ≠ "")

/-- Convert an annotation, strings being left to `literal` and `tagged`. Metadata becomes tags only
where `Annotated` is outermost. -/
def taggedOf (s : Scope) (literal : Text → RefResult) (tagged : Text → TaggedResult) :
    Expr → TaggedResult
  | .constant (.text t _) => tagged t
  | .subscript value (.tuple elts) => do
    let origin ← s.origin value
    if origin = annotatedOrigin then
      match elts with
      | [] => .error .noIndex
      | first :: metadata => do
        let (ref, tags) ← taggedOf s literal tagged first
        pure (ref, tags ++ metadataTags metadata)
    else do
      let ref ← exprRef s literal (.subscript value (.tuple elts))
      pure (ref, [])
  | .subscript value index => do
    let origin ← s.origin value
    if origin = annotatedOrigin then taggedOf s literal tagged index
    else do
      let ref ← exprRef s literal (.subscript value index)
      pure (ref, [])
  | e => do
    let ref ← exprRef s literal e
    pure (ref, [])

/-- Convert an annotation that came out of a string. A string in it is a plain reference. -/
def unquotedTagged (s : Scope) (literal : Text → RefResult) (tagged : Text → TaggedResult)
    (e : Expr) : TaggedResult :=
  match e.text? with
  | some t => do
    let ref ← literal t
    pure (ref, [])
  | none => taggedOf s literal tagged e

def literalTagged (read : Reader) (s : Scope) : Nat → Text → TaggedResult
  | 0, t => .ok (.named (Text.quoted t), [])
  | n + 1, t =>
    match read t with
    | .ok e => unquotedTagged s (literalRef read s n) (literalTagged read s n) e
    | .error .malformed => .ok (.named (Text.quoted t), [])
    | .error fault => .error fault

def taggedRef (read : Reader) (s : Scope) (e : Expr) : TaggedResult :=
  taggedOf s (stringRef read s) (fun t => literalTagged read s (t.length + 1) t) e

/-! ## Class variables -/

/-- The expression that a string holds; other expressions, and strings without one, are themselves. -/
def unquote (read : Reader) (e : Expr) : Except SourceFault Expr :=
  match e.text? with
  | none => .ok e
  | some t =>
    match read t with
    | .ok inner => .ok inner
    | .error .malformed => .ok e
    | .error fault => .error fault

/-- Does an annotation mark a variable of the class itself? -/
def isClassVar (read : Reader) (s : Scope) (e : Expr) : Except SourceFault Bool := do
  let inner ← unquote read e
  let head := match inner with
    | .subscript value _ => value
    | e => e
  let origin ← s.origin head
  pure (origin = classVarOrigin)

end ModelReach.Facts
