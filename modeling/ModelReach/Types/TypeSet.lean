import ModelReach.Types.Descriptor

/-! Sets of types: no two members have the same key, and of several candidates the first one stays. The
order of insertion is kept, but no rule may depend on it; `SetOrder` says in which order the members are
visited. -/
namespace ModelReach
set_option autoImplicit false

structure TypeSet where
  members : List Descriptor

namespace TypeSet

def empty : TypeSet := ⟨[]⟩

def contains (s : TypeSet) (d : Descriptor) : Bool := s.members.any fun m => m.key == d.key

/-- Insert a type, unless one with its key is there. -/
def insert (s : TypeSet) (d : Descriptor) : TypeSet :=
  if s.contains d then s else ⟨s.members ++ [d]⟩

def insertAll (s : TypeSet) (ds : List Descriptor) : TypeSet := ds.foldl insert s

def ofList (ds : List Descriptor) : TypeSet := empty.insertAll ds

def union (s t : TypeSet) : TypeSet := s.insertAll t.members

def size (s : TypeSet) : Nat := s.members.length

def keys (s : TypeSet) : List String := s.members.map Descriptor.key

end TypeSet

def sortStrings (l : List String) : List String := l.mergeSort fun a b => a ≤ b

/-- An order in which the members of sets are visited. -/
structure SetOrder where
  arrange : List Descriptor → List Descriptor
  perm : ∀ l, (arrange l).Perm l

def SetOrder.inserted : SetOrder := ⟨id, fun _ => List.Perm.refl _⟩

def TypeSet.visit (s : TypeSet) (o : SetOrder) : List Descriptor := o.arrange s.members

end ModelReach
