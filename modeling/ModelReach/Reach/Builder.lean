import ModelReach.Types.Referenced

/-! The models that can be reached from entry types: those that their methods refer to, then types below
these in the same module, then all that properties lead to. -/
namespace ModelReach.Reach
set_option autoImplicit false

variable {m : Type → Type} [Monad m]

/-! ## Phases -/

inductive Phase where
  | collectDirect
  | expandDerived
  | closeProperties
  | done
  deriving DecidableEq, Repr

def Phase.name : Phase → String
  | .collectDirect => "collect_direct"
  | .expandDerived => "expand_derived"
  | .closeProperties => "close_properties"
  | .done => "done"

def Phase.next : Phase → Phase
  | .collectDirect => .expandDerived
  | .expandDerived => .closeProperties
  | .closeProperties | .done => .done

/-! ## Direct models -/

def addMethodModels (p : Policy) (v : View m) (found : TypeSet) (method : Method) : m TypeSet := do
  let more ← methodModels p v method
  pure (found.union more)

def addEntryModels (p : Policy) (v : View m) (found : TypeSet) (entry : Descriptor) :
    m TypeSet := do
  let methods ← v.methods entry
  methods.foldlM (addMethodModels p v) found

def collectDirect (p : Policy) (v : View m) (entries : List Descriptor) : m TypeSet :=
  entries.foldlM (addEntryModels p v) .empty

/-! ## Derived models -/

/-- Add a candidate if it is an accepted type below a model. -/
def addDerived (p : Policy) (v : View m) (model : Descriptor) (models : TypeSet)
    (candidate : Descriptor) : m TypeSet := do
  if ← v.isStrictSubtype candidate model then
    if ← p.accepts v candidate then pure (models.insert candidate) else pure models
  else pure models

/-- Add the accepted types below a model that its module declares. -/
def addDerivedOf (p : Policy) (v : View m) (models : TypeSet) (model : Descriptor) : m TypeSet :=
  match model.module? with
  | none => pure models
  | some module => do
    let candidates ← v.moduleTypes module
    candidates.foldlM (addDerived p v model) models

/-- A set with the accepted types below its members, each from the member's own module. -/
def expandDerived (p : Policy) (v : View m) (o : SetOrder) (implementing : TypeSet) :
    m TypeSet :=
  (implementing.visit o).foldlM (addDerivedOf p v) implementing

/-! ## Closure under properties -/

/-- A closure under way: the models found, and those whose properties have not been followed, the next
one first. -/
structure Worklist where
  models : TypeSet
  pending : List Descriptor

/-- Note a type that a property leads to, unless it was found before. -/
def Worklist.note (w : Worklist) (found : Descriptor) : Worklist :=
  if w.models.contains found then w else ⟨w.models.insert found, found :: w.pending⟩

/-- The types that a property leads to, in the order of a visit; none for an ignored property. -/
def propertyModels (p : Policy) (v : View m) (o : SetOrder) (property : Property) :
    m (List Descriptor) := do
  if p.ignores property.tags then pure []
  else
    let found ← referenced p v property.effectiveType
    pure (found.visit o)

def Worklist.followProperty (p : Policy) (v : View m) (o : SetOrder) (w : Worklist)
    (property : Property) : m Worklist := do
  let found ← propertyModels p v o property
  pure (found.foldl Worklist.note w)

def Worklist.follow (p : Policy) (v : View m) (o : SetOrder) (w : Worklist) (model : Descriptor) :
    m Worklist := do
  let properties ← v.allProperties model
  properties.foldlM (Worklist.followProperty p v o) w

def Worklist.run (p : Policy) (v : View m) (o : SetOrder) : Nat → Worklist → m Worklist
  | 0, w => pure w
  | n + 1, w =>
    match w.pending with
    | [] => pure w
    | model :: rest => do
      let w ← Worklist.follow p v o { w with pending := rest } model
      Worklist.run p v o n w

/-- The closure of a set under the properties of its members. Each model is followed once, and all but
those given are declared classes, so the rounds are bounded by the classes. -/
def closeProperties (p : Policy) (v : View m) (o : SetOrder) (models : TypeSet) :
    m TypeSet := do
  let bound ← v.classBound
  let w ← Worklist.run p v o (models.size + bound + 1) ⟨models, (models.visit o).reverse⟩
  pure w.models

/-! ## All phases -/

/-- What a build finds: the models after each phase. -/
structure Reachability where
  entryTypes : TypeSet
  implementing : TypeSet
  derived : TypeSet
  models : TypeSet

/-- The models that can be reached from entry types, by the policy. -/
def build (p : Policy) (v : View m) (o : SetOrder) (entryTypes : List Descriptor) :
    m Reachability := do
  let entries := TypeSet.ofList entryTypes
  let implementing ← collectDirect p v (entries.visit o)
  let derived ← expandDerived p v o implementing
  let models ← closeProperties p v o derived
  pure ⟨entries, implementing, derived, models⟩

end ModelReach.Reach
