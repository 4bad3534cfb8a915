import ModelReach.Types.Descriptor

/-! What the rules may ask about types. Answers are given in a monad, since a first question may fix the
answer to later ones. -/
namespace ModelReach
set_option autoImplicit false

variable {m : Type → Type} [Monad m]

/-- Access to base types. `edgeBound` is at least the number of bases of all classes together. -/
structure Lineage (m : Type → Type) where
  bases : Descriptor → m (List Descriptor)
  edgeBound : m Nat

/-- Access to all that is known about types. `classBound` is at least the number of classes. -/
structure View (m : Type → Type) extends Lineage m where
  properties : Descriptor → m (List Property)
  methods : Descriptor → m (List Method)
  kind : Descriptor → m Kind
  moduleTypes : String → m (List Descriptor)
  classBound : m Nat

/-! ## Ancestors -/

/-- Visit a queue of bases, nearest first. Types with a key seen before are passed over; `done` holds
those found, last first. -/
def Lineage.visitBases (v : Lineage m) :
    Nat → List String → List Descriptor → List Descriptor → m (List Descriptor)
  | 0, _, done, _ => pure done.reverse
  | _ + 1, _, done, [] => pure done.reverse
  | n + 1, seen, done, base :: queue =>
    if seen.contains base.key then v.visitBases n seen done queue
    else do
      let more ← v.bases base
      v.visitBases n (base.key :: seen) (base :: done) (queue ++ more)

/-- All transitive bases of a type, nearest first. Each class is opened once, so the rounds are bounded by
the bases of all classes. -/
def Lineage.ancestors (v : Lineage m) (t : Descriptor) : m (List Descriptor) := do
  let queue ← v.bases t
  let bound ← v.edgeBound
  v.visitBases (queue.length + bound + 1) [t.key] [] queue

/-- Is the full name of a type, or its last part, among some names? -/
def Descriptor.isNamed (d : Descriptor) (names : List String) : Bool :=
  names.contains d.qualifiedName || names.contains d.name

def Lineage.implements (v : Lineage m) (t : Descriptor) (names : List String) : m Bool := do
  let ancestors ← v.ancestors t
  pure (ancestors.any (·.isNamed names))

/-- Is a type below another one, and not the same? -/
def Lineage.isStrictSubtype (v : Lineage m) (candidate base : Descriptor) : m Bool := do
  if candidate.key == base.key then pure false
  else
    let ancestors ← v.ancestors candidate
    pure (ancestors.any (·.key == base.key))

/-! ## Kinds -/

def enumBases : List String :=
  ["enum.Enum", "enum.IntEnum", "enum.StrEnum", "enum.Flag", "enum.IntFlag"]

def interfaceBases : List String := ["typing.Protocol"]

def Lineage.classify (v : Lineage m) (t : Descriptor) : m Kind := do
  let bases ← v.bases t
  if bases.any fun b => interfaceBases.contains b.qualifiedName then pure .interface
  else
    let ancestors ← v.ancestors t
    pure (if ancestors.any fun a => enumBases.contains a.qualifiedName then .enum else .ofClass)

/-! ## Inherited properties -/

/-- Give a name a property. A name that has one keeps its place. -/
def mergeProperty (merged : List Property) (p : Property) : List Property :=
  if merged.any (·.name == p.name) then
    merged.map fun q => if q.name == p.name then p else q
  else merged ++ [p]

def mergeProperties (merged more : List Property) : List Property := more.foldl mergeProperty merged

def Descriptor.isDeclared : Descriptor → Bool
  | declared _ _ => true
  | _ => false

/-- The properties of a declared class and of the classes that it inherits from, the last base first,
then its own. `seen` are the classes opened before; they are passed over. -/
def View.inherited (v : View m) : Nat → List String → Descriptor → m (List Property × List String)
  | 0, seen, _ => pure ([], seen)
  | n + 1, seen, t => do
    let bases ← v.bases t
    let (merged, seen) ← bases.reverse.foldlM (fun (merged, seen) base => do
      if base.isDeclared && !seen.contains base.key then
        let (more, seen) ← v.inherited n seen base
        pure (mergeProperties merged more, seen)
      else pure (merged, seen)) ([], t.key :: seen)
    let own ← v.properties t
    pure (mergeProperties merged own, seen)

/-- All properties of a type: inherited ones, overridden by those that a class declares itself. -/
def View.allProperties (v : View m) (t : Descriptor) : m (List Property) :=
  if t.isDeclared then do
    let bound ← v.classBound
    let (merged, _) ← v.inherited (bound + 1) [] t
    pure merged
  else v.properties t

end ModelReach
