import ModelReach.Proofs.Run.Collect
import ModelReach.Proofs.Schema.References

/-! References between the documents of a run. A reference names a class or an enumeration, and leads to a
document unless the policy refuses the type. -/
namespace ModelReach.Run
set_option autoImplicit false

open Catalogue
open Files (FileTree)

variable {loads : List ModuleFacts} {t : FileTree}

/-- A class or an enumeration that stands in a catalogue under a name, from a file that was scanned. -/
structure ReferredClass (t : FileTree) (options : ScanOptions) (c : Catalogue) (name : String)
    (d : Descriptor) : Prop where
  stands : c.get? name = some d
  kind : (view.kind d c).1 = .ofClass ∨ (view.kind d c).1 = .enum
  name_eq : d.qualifiedName = name
  declared : ∃ number facts module, d = .declared number facts ∧ facts ∈ module.classes ∧
    FromScan t options module

end ModelReach.Run
