import ModelReach.Schema.Property
import ModelReach.Types.Policy
import ModelReach.Types.TypeSet

/-! Schemas of models: enumerations list their values, classes their properties. -/
namespace ModelReach
set_option autoImplicit false

variable {m : Type → Type} [Monad m]

/-! ## Model schemas -/

/-- What a schema says about a model beyond its name. -/
inductive ModelBody where
  | unknown
  | enumeration (type : Option String) (values : List MemberValue)
  | object (properties : List (String × Schema)) (required : List String)

structure ModelSchema where
  id : String
  title : String
  description : Option Text
  body : ModelBody

/-! ## Enumerations -/

def MemberValue.isText : MemberValue → Bool
  | .text _ => true
  | _ => false

def MemberValue.isInt : MemberValue → Bool
  | .int _ => true
  | _ => false

/-- The values of an enumeration; the names of its members if some value is absent. -/
def enumValues (members : List MemberFacts) : List MemberValue :=
  if members.any (·.value = .absent) then members.map fun x => .text (Text.ofString x.name)
  else members.map (·.value)

/-- What JSON calls values that are all texts or all integers. -/
def valuesType (values : List MemberValue) : Option String :=
  if values.isEmpty then none
  else if values.all MemberValue.isText then some "string"
  else if values.all MemberValue.isInt then some "integer"
  else none

def enumBody (facts : ClassFacts) : ModelBody :=
  let values := enumValues facts.members
  .enumeration (valuesType values) values

/-! ## Classes -/

def isHidden (policy : Option Policy) (p : Property) : Bool :=
  policy.any fun policy => policy.ignores p.tags

def requiredNames (properties : List Property) : List String :=
  (properties.filter fun p => !p.hasDefault && !p.type.isOptional).map (·.name)

def namedSchema (v : View m) (p : Property) : m (String × Schema) := do
  let schema ← propertySchema v p.type
  pure (p.name, schema)

def classBody (v : View m) (policy : Option Policy) (t : Descriptor) : m ModelBody := do
  let all ← v.allProperties t
  let properties := all.filter fun p => !isHidden policy p
  let schemas ← properties.mapM (namedSchema v)
  pure (.object schemas (requiredNames properties))

def modelBody (v : View m) (policy : Option Policy) (t : Descriptor) (facts : ClassFacts) :
    m ModelBody := do
  let kind ← v.kind t
  if kind = .enum then pure (enumBody facts) else classBody v policy t

/-- The schema of a model; without a policy nothing is left out. -/
def generateSchema (v : View m) (policy : Option Policy) (t : Descriptor) : m ModelSchema := do
  match t.facts? with
  | none => pure ⟨t.qualifiedName, t.name, none, .unknown⟩
  | some facts =>
    let body ← modelBody v policy t facts
    pure ⟨t.qualifiedName, t.name, facts.docstring, body⟩

/-! ## Many models -/

def putSchema (done : List (String × ModelSchema)) (key : String) (schema : ModelSchema) :
    List (String × ModelSchema) :=
  if done.any (·.1 = key) then
    done.map fun entry => if entry.1 = key then (key, schema) else entry
  else done ++ [(key, schema)]

def addSchema (v : View m) (policy : Option Policy) (done : List (String × ModelSchema))
    (t : Descriptor) : m (List (String × ModelSchema)) := do
  let schema ← generateSchema v policy t
  pure (putSchema done t.key schema)

/-- The schemas of models in the order of their keys. Of models with one key the last counts. -/
def generateSchemas (v : View m) (policy : Option Policy) (models : List Descriptor) :
    m (List ModelSchema) := do
  let byKey ← models.foldlM (addSchema v policy) []
  pure ((byKey.mergeSort fun a b => a.1 ≤ b.1).map (·.2))

end ModelReach
