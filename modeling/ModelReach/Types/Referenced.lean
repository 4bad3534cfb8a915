import ModelReach.Types.Policy
import ModelReach.Types.TypeSet

/-! The models that a type refers to, seen through arrays and generic types. -/
namespace ModelReach
set_option autoImplicit false

variable {m : Type → Type} [Monad m]

def Kind.isWrapper : Kind → Bool
  | .generic | .array => true
  | _ => false

def addAccepted (p : Policy) (v : View m) (found : TypeSet) (t : Descriptor) : m TypeSet := do
  if ← p.accepts v t then pure (found.insert t) else pure found

def surfaceBases (p : Policy) (v : View m) (t : Descriptor) (found : TypeSet) : m TypeSet := do
  let bases ← v.bases t
  bases.foldlM (addAccepted p v) found

/-- Is an argument of a generic type followed? It is if it is a model or wraps others. -/
def followsArgument (p : Policy) (v : View m) (arg : Descriptor) : m Bool := do
  if ← p.isModel v arg then pure true
  else
    let kind ← v.kind arg
    pure kind.isWrapper

mutual

/-- The models that a type refers to: itself, or those of its element or followed arguments, and the
accepted bases. -/
def referenced (p : Policy) (v : View m) : Descriptor → m TypeSet
  | .array key element unique =>
    if p.isExcluded (.array key element unique) then pure .empty else referenced p v element
  | .generic key origin args =>
    if p.isExcluded (.generic key origin args) then pure .empty
    else referencedArgs p v args .empty
  | t => do
    if p.isExcluded t then pure .empty
    else
      let isModel ← p.isModel v t
      surfaceBases p v t (if isModel then TypeSet.empty.insert t else .empty)

def referencedArgs (p : Policy) (v : View m) : List Descriptor → TypeSet → m TypeSet
  | [], found => pure found
  | arg :: rest, found => do
    if ← followsArgument p v arg then
      let more ← referenced p v arg
      referencedArgs p v rest (found.union more)
    else referencedArgs p v rest found

end

/-- Add the models that a parameter refers to, unless it is ignored. -/
def addParameterModels (p : Policy) (v : View m) (found : TypeSet) (parameter : MethodParameter) :
    m TypeSet := do
  match parameter.type with
  | none => pure found
  | some t =>
    if p.ignores parameter.tags then pure found
    else
      let more ← referenced p v t
      pure (found.union more)

/-- The models that a method refers to, in what it returns and in parameters that are not ignored. -/
def methodModels (p : Policy) (v : View m) (method : Method) : m TypeSet := do
  let returned ← match method.returns with
    | some t => referenced p v t
    | none => pure .empty
  method.parameters.foldlM (addParameterModels p v) returned

/-- The type of a property, a generic type with a single argument being taken off. -/
def Property.effectiveType (p : Property) : Descriptor :=
  match p.type with
  | .generic _ _ [arg] => arg
  | t => t

end ModelReach
