import ModelReach.Types.View

/-! Which types may be followed and which may become models. -/
namespace ModelReach
set_option autoImplicit false

variable {m : Type → Type} [Monad m]

/-- Types with the ignore marker among their tags are excluded; types whose full name begins with one of
the prefixes are no models. -/
structure Policy where
  ignoreMarker : String
  excludedPrefixes : List String
  deriving DecidableEq, Repr

def defaultIgnoreMarker : String := "schema_ignore"

def defaultExcludedPrefixes : List String :=
  ["builtins.", "typing.", "collections.", "enum.", "abc.", "asyncio.", "datetime.", "decimal.",
   "uuid.", "pydantic.", "fastapi.", "starlette."]

def Policy.usual : Policy := ⟨defaultIgnoreMarker, defaultExcludedPrefixes⟩

/-- Wrappers of tasks without a payload. With one they are generic types, and followed. -/
def taskTypes : List String :=
  ["asyncio.Task", "asyncio.Future", "asyncio.tasks.Task", "asyncio.futures.Future",
   "typing.Awaitable", "typing.Coroutine", "collections.abc.Awaitable",
   "collections.abc.Coroutine"]

namespace Policy

/-- Is one of the tags the marker, or a name that ends in it after a point? -/
def ignores (p : Policy) (tags : List String) : Bool :=
  tags.any fun tag =>
    tag == p.ignoreMarker || ('.' :: p.ignoreMarker.toList).isSuffixOf tag.toList

def isExcluded (p : Policy) (t : Descriptor) : Bool :=
  p.ignores t.tags || taskTypes.contains t.qualifiedName

def hasExcludedPrefix (p : Policy) (t : Descriptor) : Bool :=
  p.excludedPrefixes.any fun pre => pre.toList.isPrefixOf t.qualifiedName.toList

/-- May a type of a kind be a model? Only classes and enumerations may, and texts are none. -/
def isModelOfKind (p : Policy) (kind : Kind) (t : Descriptor) : Bool :=
  (kind == .ofClass || kind == .enum) && t.qualifiedName != "builtins.str" &&
    t.namespaceName != "" && !p.hasExcludedPrefix t

def isModel (p : Policy) (v : View m) (t : Descriptor) : m Bool := do
  let kind ← v.kind t
  pure (p.isModelOfKind kind t)

def accepts (p : Policy) (v : View m) (t : Descriptor) : m Bool := do
  let isModel ← p.isModel v t
  pure (isModel && !p.isExcluded t)

end Policy
end ModelReach
