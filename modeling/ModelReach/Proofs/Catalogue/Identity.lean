import ModelReach.Proofs.Catalogue.Keys

/-! Types are the same just if they have the same key. So types that well-formed references are resolved to are the same
just if the references are. -/
namespace ModelReach.Catalogue
set_option autoImplicit false

variable {loads : List ModuleFacts} {c d : Catalogue} {r r' : TypeRef}

theorem key_resolve (hc : Sound loads c) (r : TypeRef) : (resolve r c).1.key = r.key := by
  have hkeys := (resolving_resolve r hc).keys
  rw [List.map_singleton, List.map_singleton] at hkeys
  exact (List.cons.inj hkeys).1

/-- Resolved types are compared by the keys of the references. -/
theorem sameType_resolve (hc : Sound loads c) (hd : Sound loads d) (r r' : TypeRef) :
    (resolve r c).1.sameType (resolve r' d).1 = true ↔ r.key = r'.key := by
  rw [Descriptor.sameType, key_resolve hc, key_resolve hd, beq_iff_eq]

/-- Well-formed references with one key are one reference, and the types that they are resolved to, at whatever times,
are the same just if the references are. -/
theorem resolve_identifies (hr : r.isWellFormed = true) (hr' : r'.isWellFormed = true) :
    (r.key = r'.key ↔ r = r') ∧
    ∀ loads c d, InUse loads c → InUse loads d →
      ((resolve r c).1.sameType (resolve r' d).1 = true ↔ r = r') := by
  have hkey : r.key = r'.key ↔ r = r' := ⟨TypeRef.keyed_isWellFormed r r' hr hr', fun h => congrArg TypeRef.key h⟩
  refine ⟨hkey, fun loads c d hc hd => ?_⟩
  rw [sameType_resolve hc.sound hd.sound, hkey]

/-- A generic type of two arguments, of which the first is generic without arguments. -/
def twoArguments : TypeRef := .generic "p.P" [.generic "q.Q" [], .array (.named "x") true]

/-- A generic type of one argument, which is generic of one argument. -/
def oneArgument : TypeRef := .generic "p.P" [.generic "q.Q" [.array (.named "x") true]]

theorem resolve_identifies_brackets :
    twoArguments.key = "p.P[q.Q[], set[x]]" ∧ oneArgument.key = "p.P[q.Q[set[x]]]" ∧
    twoArguments.isWellFormed = true ∧ oneArgument.isWellFormed = true ∧
    (twoArguments.key = oneArgument.key ↔ twoArguments = oneArgument) ∧
    (resolve twoArguments (loaded [])).1.sameType (resolve oneArgument (resolve twoArguments (loaded [])).2).1 = false := by
  have htwo : twoArguments.isWellFormed = true := by decide +kernel
  have hone : oneArgument.isWellFormed = true := by decide +kernel
  obtain ⟨hkey, hsame⟩ := resolve_identifies htwo hone
  have hc : InUse [] (loaded []) := inUse_loaded []
  refine ⟨by decide, by decide, htwo, hone, hkey, ?_⟩
  rw [Bool.eq_false_iff]
  intro h
  have hrefs : twoArguments = oneArgument := (hsame [] _ _ hc (hc.resolve twoArguments)).mp h
  simp [twoArguments, oneArgument] at hrefs

end ModelReach.Catalogue
