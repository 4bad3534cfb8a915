import ModelReach.Proofs.Catalogue.Keys
import ModelReach.Proofs.Masking.Schemas

/-! Catalogues in which all written references have been resolved. If no key stands for two types, what a reference
was resolved to does not depend on what was asked before; so the readings of two such catalogues, whose sources agree
but for what a policy ignores, correspond. -/
namespace ModelReach.Catalogue
set_option autoImplicit false

variable {p : Policy} {loads loads' : List ModuleFacts} {c d d' : Catalogue}

/-! ## One type for each key -/

/-- A catalogue in use that has resolved some references, and in which no key stands for two types: neither among the
classes that were read, nor among the types that these references and those written in classes are resolved to,
whichever are resolved first. -/
structure Univocal (loads : List ModuleFacts) (refs : List TypeRef) (c : Catalogue) : Prop where
  inUse : InUse loads c
  resolves : Resolves (written loads ++ refs) (loaded loads) c
  classes : OneClassForKey loads
  held : ∀ d e, Resolves (written loads ++ refs) (loaded loads) d →
    Resolves (written loads ++ refs) (loaded loads) e → ∀ k t t', d.resolved.lookup k = some t → e.resolved.lookup k = some t' → t = t'

variable {refs : List TypeRef}

theorem Univocal.oneForKey (h : Univocal loads refs c) : OneForKey loads c where
  classes := h.classes
  held d e hd he := h.held d e (h.resolves.trans (hd.mono (List.subset_append_left _ _)))
    (h.resolves.trans (he.mono (List.subset_append_left _ _)))

/-- Under the key of a reference stands what it is resolved to before all others. -/
theorem Univocal.lookup_eq (h : Univocal loads refs c) (hd : Resolves (written loads) c d) {r : TypeRef}
    (hr : r ∈ written loads) {t : Descriptor} (ht : d.resolved.lookup r.key = some t) :
    t = (resolve r (loaded loads)).1 := by
  have hfirst := (List.forall₂_cons.mp (resolving_resolve r (sound_loaded loads)).held).1
  exact h.held d (resolve r (loaded loads)).2 (h.resolves.trans (hd.mono (List.subset_append_left _ _)))
    (Resolves.start.resolve (List.mem_append_left _ hr)) r.key _ _ ht hfirst

/-- Where no two classes share a key and all references are well formed, no key stands for two types. -/
theorem univocal_of_isWellFormed (hc : InUse loads c) (hr : Resolves (written loads ++ refs) (loaded loads) c)
    (hclasses : OneClassForKey loads) (hw : ∀ r ∈ written loads ++ refs, r.isWellFormed = true) :
    Univocal loads refs c where
  inUse := hc
  resolves := hr
  classes := hclasses
  held d e hd he k t t' ht ht' := by
    have hlater {e : Catalogue} (he : Resolves (written loads ++ refs) (loaded loads) e) :=
      denotes_loaded.later TypeRef.keyed_isWellFormed (fun r hr => TypeRef.isWellFormed_parts r (hw r hr)) he
    exact (hlater hd).unique TypeRef.keyed_isWellFormed (hlater he) ht ht'

/-! ## Saturated catalogues -/

/-- All references that are written in classes have been resolved, each as if it had been the first. -/
structure Saturated (loads : List ModuleFacts) (d : Catalogue) : Prop where
  sound : Sound loads d
  held : ∀ r ∈ written loads, d.resolved.lookup r.key = some (resolve r (loaded loads)).1

theorem Saturated.later {e : Catalogue} (h : Saturated loads d) (he : Follows loads d e) : Saturated loads e where
  sound := he.sound
  held r hr := he.more _ _ (h.held r hr)

/-- Every catalogue that comes of one without ambiguous keys comes to be saturated. -/
theorem Univocal.exists_saturated (h : Univocal loads refs c) (hs : Sound loads d)
    (hd : Resolves (written loads) c d) : ∃ e, Follows loads d e ∧ Saturated loads e := by
  have hall := resolving_resolveAll (written loads) hs
  refine ⟨(resolveAll (written loads) d).2, hall.toFollows, hall.sound, fun r hr => ?_⟩
  obtain ⟨t, ht⟩ := hall.holds r hr
  rw [ht, h.lookup_eq (hd.trans (resolves_resolveAll (written loads) d)) hr ht]

/-! ## References in members -/

theorem type_mem_propertyRefs {f : ClassFacts} {q : PropertyFacts} (hq : q ∈ f.properties) :
    q.type ∈ propertyRefs f := List.mem_flatMap.mpr ⟨q, hq, List.mem_singleton_self _⟩

theorem returns_mem_methodRefs {f : ClassFacts} {m : MethodFacts} (hm : m ∈ f.methods) {r : TypeRef}
    (hr : r ∈ m.returns) : r ∈ methodRefs f :=
  List.mem_flatMap.mpr ⟨m, hm, List.mem_append_left _ (Option.mem_toList.mpr hr)⟩

theorem type_mem_methodRefs {f : ClassFacts} {m : MethodFacts} (hm : m ∈ f.methods) {q : ParameterFacts}
    (hq : q ∈ m.parameters) {r : TypeRef} (hr : r ∈ q.type) : r ∈ methodRefs f :=
  List.mem_flatMap.mpr ⟨m, hm, List.mem_append_right _
    (List.mem_flatMap.mpr ⟨q, hq, Option.mem_toList.mpr hr⟩)⟩

/-! ## Readings that correspond -/

/-- Saturated catalogues of sources that agree but for what the policy ignores. -/
structure Paired (p : Policy) (loads loads' : List ModuleFacts) (d d' : Catalogue) : Prop where
  agree : Agree p loads loads'
  classes : OneClassForKey loads
  classes' : OneClassForKey loads'
  saturated : Saturated loads d
  saturated' : Saturated loads' d'

section Paired
variable (h : Paired p loads loads' d d')
include h

theorem Paired.symm : Paired p loads' loads d' d := ⟨h.agree.symm, h.classes', h.classes, h.saturated', h.saturated⟩

theorem Paired.later {e e' : Catalogue} (he : Follows loads d e) (he' : Follows loads' d' e') :
    Paired p loads loads' e e' :=
  ⟨h.agree, h.classes, h.classes', h.saturated.later he, h.saturated'.later he'⟩

/-- A reference that is written in both sources means twins. -/
theorem Paired.twin_meaning {r : TypeRef} (hr : r ∈ written loads) (hr' : r ∈ written loads') :
    Twin p loads loads' (meaning d.resolved r) (meaning d'.resolved r) := by
  rw [meaning_of_lookup (h.saturated.held r hr), meaning_of_lookup (h.saturated'.held r hr')]
  exact (twin_resolve r (h.agree.tables h.classes')).answer

theorem Paired.twin_option {r : Option TypeRef} (hr : ∀ x ∈ r, x ∈ written loads)
    (hr' : ∀ x ∈ r, x ∈ written loads') :
    Option.Rel (Twin p loads loads') (r.map (meaning d.resolved)) (r.map (meaning d'.resolved)) := by
  cases r with
  | none => exact .none
  | some x => exact .some (h.twin_meaning (hr x rfl) (hr' x rfl))

section Classes
variable {n n' : Nat} {f f' : ClassFacts} (hf : (classesIn loads)[n]? = some f)
  (hf' : (classesIn loads')[n']? = some f') (hm : f.masked p = f'.masked p)
include hf hf' hm

theorem Paired.twin_bases :
    List.Forall₂ (Twin p loads loads') (basesIn d.resolved f) (basesIn d'.resolved f') := by
  have hnames : baseNames f = baseNames f' := ClassFacts.same hm baseNames fun _ => rfl
  rw [basesIn, basesIn, ← hnames, List.forall₂_map_left_iff, List.forall₂_map_right_iff,
    List.forall₂_same]
  intro name hname
  exact h.twin_meaning (baseRefs_subset hf (List.mem_map_of_mem hname))
    (baseRefs_subset hf' (List.mem_map_of_mem (hnames ▸ hname)))

theorem Paired.twin_properties : List.Forall₂ (TwinProperty p loads loads') (f.properties.map (propertyIn d.resolved))
    (f'.properties.map (propertyIn d'.resolved)) := by
  rw [List.forall₂_map_left_iff, List.forall₂_map_right_iff]
  have hmasked := congrArg ClassFacts.properties hm
  refine forall₂_of_mem (forall₂_of_map_eq hmasked) fun q hq q' hq' hqq =>
    ⟨eq_of_masked_eq _ PropertyFacts.name_masked hqq, eq_of_masked_eq _ PropertyFacts.hasDefault_masked hqq,
      eq_of_masked_eq _ PropertyFacts.tags_masked hqq, fun hkept => ?_⟩
  have htype : q.type = q'.type := PropertyFacts.type_eq hqq hkept
  rw [propertyIn, propertyIn, ← htype]
  exact h.twin_meaning (propertyRefs_subset hf (type_mem_propertyRefs hq))
    (propertyRefs_subset hf' (htype ▸ type_mem_propertyRefs hq'))

theorem Paired.twin_methods : List.Forall₂ (TwinMethod p loads loads') (f.methods.map (methodIn d.resolved))
    (f'.methods.map (methodIn d'.resolved)) := by
  rw [List.forall₂_map_left_iff, List.forall₂_map_right_iff]
  have hmasked := congrArg ClassFacts.methods hm
  refine forall₂_of_mem (forall₂_of_map_eq hmasked) fun m hm m' hm' hmm => ⟨?_, ?_⟩
  · have hreturns : m.returns = m'.returns := eq_of_masked_eq _ MethodFacts.returns_masked hmm
    rw [methodIn, methodIn, ← hreturns]
    exact h.twin_option (fun x hx => methodRefs_subset hf (returns_mem_methodRefs hm hx))
      fun x hx => methodRefs_subset hf' (returns_mem_methodRefs hm' (hreturns ▸ hx))
  · change List.Forall₂ _ (m.parameters.map (parameterIn d.resolved)) (m'.parameters.map (parameterIn d'.resolved))
    rw [List.forall₂_map_left_iff, List.forall₂_map_right_iff]
    have hparameters := congrArg MethodFacts.parameters hmm
    refine forall₂_of_mem (forall₂_of_map_eq hparameters) fun q hq q' hq' hqq =>
      ⟨eq_of_masked_eq _ ParameterFacts.tags_masked hqq, fun hkept => ?_⟩
    have htype : q.type = q'.type := ParameterFacts.type_eq hqq hkept
    rw [parameterIn, parameterIn, ← htype]
    exact h.twin_option (fun x hx => methodRefs_subset hf (type_mem_methodRefs hm hq hx))
      fun x hx => methodRefs_subset hf' (type_mem_methodRefs hm' hq' (htype ▸ hx))

end Classes

theorem Paired.twinLineages : TwinLineages p loads loads' d.lineageReading d'.lineageReading where
  bases ht := by
    cases ht with
    | declared hf hf' hm => exact h.twin_bases hf hf' hm
    | leaf _ => exact .nil
    | array _ => exact .nil
    | generic _ => exact .nil
  edgeBound := by
    change d.edges = d'.edges
    rw [h.saturated.sound.edges, h.saturated'.sound.edges, loaded_edges, loaded_edges, h.agree.baseCount]

/-- The readings of such catalogues answer alike about twins, apart from what the policy ignores. -/
theorem Paired.twinViews : TwinViews p loads loads' d.reading d'.reading where
  toTwinLineages := h.twinLineages
  properties ht := by
    cases ht with
    | declared hf hf' hm => exact h.twin_properties hf hf' hm
    | leaf _ => exact .nil
    | array _ => exact .nil
    | generic _ => exact .nil
  methods ht := by
    cases ht with
    | declared hf hf' hm => exact h.twin_methods hf hf' hm
    | leaf _ => exact .nil
    | array _ => exact .nil
    | generic _ => exact .nil
  kind ht := by
    cases ht with
    | declared hf hf' hm => exact h.twinLineages.classify (.declared hf hf' hm)
    | leaf _ => rfl
    | array _ => rfl
    | generic _ => rfl
  moduleTypes module := by
    change List.Forall₂ _ (d.classesOf module) (d'.classesOf module)
    rw [h.saturated.sound.classesOf, h.saturated'.sound.classesOf]
    exact h.agree.classesOf h.classes' module
  classBound := by
    change d.settled.length = d'.settled.length
    rw [h.saturated.sound.size, h.saturated'.sound.size, h.agree.length_classesIn]

end Paired

end ModelReach.Catalogue
