import ModelReach.Types.View

/-! The catalogue of types: the classes registered so far, and the types that references to them have been
resolved to. Resolved types are kept until the next registration. What is asked of a class, its bases,
properties, methods and kind, is settled by the first question and stays. -/
namespace ModelReach
set_option autoImplicit false

/-! ## State -/

/-- What has been settled about a registered class. -/
structure Settled where
  bases : Option (List Descriptor)
  properties : Option (List Property)
  methods : Option (List Method)
  kind : Option Kind

def Settled.nothing : Settled := ⟨none, none, none, none⟩

structure Catalogue where
  settled : List Settled
  edges : Nat
  /-- Why files failed to load, by path; a reason may have no wording. -/
  failures : List (String × Option String)
  /-- The modules of the files that have been read, by path. -/
  modules : List (String × String)
  /-- The classes of each module, as last registered. -/
  byModule : List (String × List Descriptor)
  declared : List (String × Descriptor)
  resolved : List (String × Descriptor)

namespace Catalogue

def empty : Catalogue := ⟨[], 0, [], [], [], [], []⟩

/-- Give a key a value. A key that is there keeps its place. -/
def assign {α : Type} (entries : List (String × α)) (key : String) (value : α) :
    List (String × α) :=
  if entries.any (·.1 = key) then
    entries.map fun e => if e.1 = key then (key, value) else e
  else entries ++ [(key, value)]

/-! ## Registration -/

def numbered (n : Nat) : List ClassFacts → List Descriptor
  | [] => []
  | facts :: rest => .declared n facts :: numbered (n + 1) rest

def baseCount : List ClassFacts → Nat
  | [] => 0
  | facts :: rest => facts.bases.length + baseCount rest

/-- Register the classes of a file. They replace those of their module and those with the same keys, and
all types resolved before are resolved anew. -/
def register (c : Catalogue) (facts : ModuleFacts) : Catalogue :=
  let classes := numbered c.settled.length facts.classes
  let declared := classes.foldl (fun done t => assign done t.key t) c.declared
  { c with
    settled := c.settled ++ facts.classes.map fun _ => Settled.nothing
    edges := c.edges + baseCount facts.classes
    modules := assign c.modules facts.path facts.module
    byModule := assign c.byModule facts.module classes
    declared := declared
    resolved := declared }

def fail (c : Catalogue) (path : String) (reason : Option String) : Catalogue :=
  { c with failures := assign c.failures path reason }

def get? (c : Catalogue) (name : String) : Option Descriptor := c.declared.lookup name

def classesOf (c : Catalogue) (module : String) : List Descriptor :=
  (c.byModule.lookup module).getD []

/-! ## Resolution -/

def primitiveTypes : List String :=
  ["builtins.str", "builtins.int", "builtins.float", "builtins.bool", "builtins.bytes",
   "builtins.bytearray", "builtins.complex", "builtins.object", "builtins.None", "typing.Any",
   "decimal.Decimal", "datetime.datetime", "datetime.date", "datetime.time", "datetime.timedelta",
   "uuid.UUID"]

def leafOfName (name : String) : Descriptor :=
  let form := if primitiveTypes.contains name then .primitive else .other
  .leaf ⟨form, name, name, Dotted.parent name, []⟩

def keep (key : String) (t : Descriptor) : StateM Catalogue Descriptor := fun c =>
  (t, { c with resolved := assign c.resolved key t })

/-- The type kept under a key, or else the one that is made now. -/
def keptOr (key : String) (make : StateM Catalogue Descriptor) : StateM Catalogue Descriptor :=
  fun c => match c.resolved.lookup key with
  | some t => (t, c)
  | none => (do keep key (← make)) c

mutual

def resolve : TypeRef → StateM Catalogue Descriptor
  | .named name => keptOr name (pure (leafOfName name))
  | .array element unique =>
    let key := TypeRef.key (.array element unique)
    keptOr key (do
      let element ← resolve element
      pure (.array key element unique))
  | .generic origin args =>
    let key := TypeRef.key (.generic origin args)
    keptOr key (do
      let args ← resolveAll args
      pure (.generic key origin args))

def resolveAll : List TypeRef → StateM Catalogue (List Descriptor)
  | [] => pure []
  | r :: rest => do
    let t ← resolve r
    let more ← resolveAll rest
    pure (t :: more)

end

def resolveOption : Option TypeRef → StateM Catalogue (Option Descriptor)
  | none => pure none
  | some r => some <$> resolve r

/-! ## What is known about classes -/

def baseNames (facts : ClassFacts) : List String :=
  (facts.bases.filterMap TypeRef.baseName?).filter (· ≠ "")

def resolveBases (facts : ClassFacts) : StateM Catalogue (List Descriptor) :=
  resolveAll ((baseNames facts).map TypeRef.named)

def resolveProperty (p : PropertyFacts) : StateM Catalogue Property := do
  let type ← resolve p.type
  pure ⟨p.name, type, p.hasDefault, p.tags⟩

def resolveParameter (p : ParameterFacts) : StateM Catalogue MethodParameter := do
  let type ← resolveOption p.type
  pure ⟨p.name, type, p.tags⟩

def resolveMethod (f : MethodFacts) : StateM Catalogue Method := do
  let returns ← resolveOption f.returns
  let parameters ← f.parameters.mapM resolveParameter
  pure ⟨f.name, returns, parameters⟩

def settledAt (c : Catalogue) (number : Nat) : Settled := (c.settled[number]?).getD .nothing

def settle (number : Nat) (change : Settled → Settled) : StateM Catalogue Unit :=
  modify fun c => { c with settled := c.settled.modify number change }

/-- The answer settled for a class, or else the one that is found now, which settles it. -/
def settledOr {α : Type} (number : Nat) (get : Settled → Option α)
    (set : α → Settled → Settled) (find : StateM Catalogue α) : StateM Catalogue α := fun c =>
  match get (c.settledAt number) with
  | some a => (a, c)
  | none => (do
      let a ← find
      settle number (set a)
      pure a) c

def bases : Descriptor → StateM Catalogue (List Descriptor)
  | .declared number facts =>
    settledOr number Settled.bases (fun a s => { s with bases := some a }) (resolveBases facts)
  | _ => pure []

def properties : Descriptor → StateM Catalogue (List Property)
  | .declared number facts =>
    settledOr number Settled.properties (fun a s => { s with properties := some a })
      (facts.properties.mapM resolveProperty)
  | _ => pure []

def methods : Descriptor → StateM Catalogue (List Method)
  | .declared number facts =>
    settledOr number Settled.methods (fun a s => { s with methods := some a })
      (facts.methods.mapM resolveMethod)
  | _ => pure []

def lineage : Lineage (StateM Catalogue) where
  bases := bases
  edgeBound := fun c => (c.edges, c)

def kind : Descriptor → StateM Catalogue Kind
  | .declared number facts =>
    settledOr number Settled.kind (fun a s => { s with kind := some a })
      (lineage.classify (.declared number facts))
  | .leaf form => pure (if form.form = .primitive then .primitive else .other)
  | .array _ _ _ => pure .array
  | .generic _ _ _ => pure .generic

def view : View (StateM Catalogue) where
  toLineage := lineage
  properties := properties
  methods := methods
  kind := kind
  moduleTypes := fun module c => (c.classesOf module, c)
  classBound := fun c => (c.settled.length, c)

end Catalogue
end ModelReach
