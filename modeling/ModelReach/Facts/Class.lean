import ModelReach.Facts.Annotation
import ModelReach.Facts.Member
import ModelReach.Text.Margin

/-! The facts about one class statement: its public properties, methods and members. -/
namespace ModelReach.Facts
set_option autoImplicit false

open Source (Expr Stmt Parameter Parameters SourceFault)

/-! ## Decorators -/

def decoratorName (e : Expr) : Except SourceFault String :=
  let e := match e with
    | .call func _ _ => func
    | e => e
  match e.dottedName? with
  | some name => .ok name
  | none => e.print

def propertyDecorators : List String := ["property", "cached_property", "abstractproperty"]

/-- Decorators of functions that take no instance. -/
def nonInstanceDecorators : List String := ["staticmethod", "classmethod"]

def isPrivate (name : String) : Bool := name.toList.head? = some '_'

def hasDecorator (names decorators : List String) : Bool :=
  decorators.any fun d => names.contains (Dotted.lastPart d)

def isAccessor (decorator : String) : Bool :=
  ".setter".toList.isSuffixOf decorator.toList || ".deleter".toList.isSuffixOf decorator.toList

/-! ## Functions -/

def parameterFacts (read : Reader) (s : Scope) (p : Parameter) :
    Except SourceFault ParameterFacts :=
  match p.typeExpr with
  | none => .ok ⟨p.name, none, []⟩
  | some e => do
    let (ref, tags) ← taggedRef read s e
    pure ⟨p.name, some ref, tags⟩

/-- The parameters that a caller gives: all but the first positional one, which is the instance. -/
def callerParameters (ps : Parameters) : List Parameter :=
  (ps.posOnly ++ ps.args).drop 1 ++ ps.varArg.toList ++ ps.kwOnly ++ ps.kwArg.toList

def returnRef (read : Reader) (s : Scope) (returns : Option Expr) :
    Except SourceFault (Option TypeRef) :=
  match returns with
  | none => .ok none
  | some e => do
    let (ref, _) ← taggedRef read s e
    pure (some ref)

def methodFacts (read : Reader) (s : Scope) (name : String) (ps : Parameters)
    (returns : Option Expr) : Except SourceFault MethodFacts := do
  let parameters ← (callerParameters ps).mapM (parameterFacts read s)
  let returns ← returnRef read s returns
  pure ⟨name, parameters, returns⟩

def selfAttribute? : Expr → Option String
  | .attribute (.name "self") attr => if isPrivate attr then none else some attr
  | _ => none

def initProperty (read : Reader) (s : Scope) : Stmt → Except SourceFault (Option PropertyFacts)
  | .annotated target type value =>
    match selfAttribute? target with
    | none => .ok none
    | some name => do
      let (ref, tags) ← taggedRef read s type
      pure (some ⟨name, ref, value.isSome, tags⟩)
  | _ => .ok none

def initProperties (read : Reader) (s : Scope) (body : List Stmt) :
    Except SourceFault (List PropertyFacts) := do
  let found ← body.mapM (initProperty read s)
  pure (found.filterMap id)

/-! ## Class bodies -/

/-- What has been read off a class body so far. The initializer's properties wait until the end. -/
structure Body where
  properties : List PropertyFacts
  methods : List MethodFacts
  members : List MemberFacts
  initial : List PropertyFacts

def memberNames (targets : List Expr) : List String :=
  targets.filterMap fun target => match target with
    | .name id => if isPrivate id then none else some id
    | _ => none

def readProperty (read : Reader) (s : Scope) (b : Body) (name : String) (type : Expr)
    (hasDefault : Bool) : Except SourceFault Body := do
  if isPrivate name then pure b
  else if ← isClassVar read s type then pure b
  else
    let (ref, tags) ← taggedRef read s type
    pure { b with properties := b.properties ++ [⟨name, ref, hasDefault, tags⟩] }

/-- Read an assignment. All its targets are members with the one value. -/
def readMembers (b : Body) (targets : List Expr) (value : Expr) : Except SourceFault Body :=
  match memberNames targets with
  | [] => .ok b
  | names => do
    let value ← memberValue value
    pure { b with members := b.members ++ names.map fun name => ⟨name, value⟩ }

/-- Read a function: the initializer, a property, a method, or nothing that counts. -/
def readFunction (read : Reader) (s : Scope) (b : Body) (decorators : List Expr) (name : String)
    (ps : Parameters) (returns : Option Expr) (body : List Stmt) : Except SourceFault Body := do
  let decorators ← decorators.mapM decoratorName
  if name = "__init__" then
    let initial ← initProperties read s body
    pure { b with initial := initial }
  else if isPrivate name || hasDecorator nonInstanceDecorators decorators then pure b
  else if decorators.any isAccessor then pure b
  else if hasDecorator propertyDecorators decorators then
    match returns with
    | none => pure b
    | some e =>
      let (ref, tags) ← taggedRef read s e
      pure { b with properties := b.properties ++ [⟨name, ref, true, tags⟩] }
  else
    let method ← methodFacts read s name ps returns
    pure { b with methods := b.methods ++ [method] }

def readStmt (read : Reader) (s : Scope) (b : Body) : Stmt → Except SourceFault Body
  | .annotated (.name name) type value => readProperty read s b name type value.isSome
  | .assign targets value => readMembers b targets value
  | .funcDef decorators name ps returns body =>
    readFunction read s b decorators name ps returns body
  | _ => .ok b

def Body.allProperties (b : Body) : List PropertyFacts :=
  b.properties ++ b.initial.filter fun p => !b.properties.any (·.name = p.name)

/-- The docstring of a body: the text that it begins with, without its margin. -/
def docstring? (body : List Stmt) : Option Text :=
  match body with
  | .expr (.constant (.text t _)) :: _ => some (Text.withoutMargin t)
  | _ => none

def classFacts (read : Reader) (s : Scope) (decorators : List Expr) (name : String)
    (bases : List Expr) (body : List Stmt) : Except SourceFault ClassFacts := do
  let b ← body.foldlM (readStmt read s) ⟨[], [], [], []⟩
  let bases ← bases.mapM (toRef read s)
  let decorators ← decorators.mapM decoratorName
  pure {
    name := name
    module := s.module
    bases := bases
    decorators := decorators
    docstring := docstring? body
    properties := b.allProperties
    methods := b.methods
    members := b.members }

end ModelReach.Facts
