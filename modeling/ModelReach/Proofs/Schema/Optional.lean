import ModelReach.Proofs.Catalogue.Provenance
import ModelReach.Proofs.Reach.Constancy
import ModelReach.Proofs.Reach.Places

/-! Two ways to write that a type may be absent. An optional type and a choice between the type and None are described
alike, and neither is required. They lead to the same models, unless the type is no model and has bases that are: an
argument of a choice hides them. -/
namespace ModelReach
set_option autoImplicit false

/-! ## References -/

def TypeRef.optional (r : TypeRef) : TypeRef := .generic optionalOrigin [r]

def TypeRef.orNone (r : TypeRef) : TypeRef := .generic "typing.Union" [r, .named "builtins.None"]

/-- Among the parts of some references, the reference alone has its key. -/
def TypeRef.Alone (refs : List TypeRef) (r : TypeRef) : Prop :=
  ∀ x ∈ TypeRef.partsOf refs, x.key = r.key → x = r

/-- Well-formed references are told by their keys. -/
theorem TypeRef.alone_of_isWellFormed {refs : List TypeRef} (h : ∀ x ∈ refs, x.isWellFormed = true) {r : TypeRef}
    (hr : r.isWellFormed = true) : TypeRef.Alone refs r := by
  intro x hx hkey
  obtain ⟨y, hy, hx⟩ := Catalogue.mem_partsOf.mp hx
  exact TypeRef.keyed_isWellFormed x r (TypeRef.isWellFormed_parts y (h y hy) x hx) hr hkey

namespace Catalogue

variable {loads : List ModuleFacts} {refs : List TypeRef} {c d e : Catalogue} {r : TypeRef} {p : Policy}

/-! ## What the types are made of -/

/-- The type under the key of a generic reference, if no other reference has it, is made of the types that are held for
the arguments. -/
theorem generic_of_lookup (hloads : Extracted loads) (he : Sound loads e) (hr : Resolves refs (loaded loads) e)
    {origin : String} {args : List TypeRef} (halone : TypeRef.Alone refs (.generic origin args)) {t : Descriptor}
    (ht : e.resolved.lookup (TypeRef.key (.generic origin args)) = some t) :
    ∃ ts, List.Forall₂ (fun r t => e.resolved.lookup r.key = some t) args ts ∧
      t = .generic (TypeRef.key (.generic origin args)) origin ts := by
  rcases (traced_loaded loads).later hr _ _ ht with hdeclared | ⟨r, hmem, hkey, htraces⟩
  · have hstands := (he.resolved.current _ _ ht).get?_of_isDeclared hdeclared
    have hnone := hloads.lookup_of_inside (r := .generic origin args) (List.cons_ne_nil _ _)
    rw [he.resolved.key_eq _ _ ht] at hstands
    rw [loaded_resolved] at hnone
    exact absurd (hstands.symm.trans hnone) (Option.some_ne_none _)
  · rw [halone r hmem hkey] at htraces
    cases htraces with
    | generic h => exact ⟨_, h, rfl⟩

theorem ne_none_of_bracket {s : String} (h : s.toList.getLast? = some ']') : s ≠ "builtins.None" := by
  rintro rfl
  exact absurd h (by decide)

/-- Where no class stands under its name, None is the primitive type. -/
theorem eq_none_of_lookup (he : Sound loads e) (hnone : (loaded loads).get? "builtins.None" = none) {t : Descriptor}
    (ht : e.resolved.lookup "builtins.None" = some t) : t = leafOfName "builtins.None" := by
  have hkey := he.resolved.key_eq _ _ ht
  cases he.resolved.current _ _ ht with
  | @declared n facts h =>
    rw [show facts.qualifiedName = "builtins.None" from hkey, hnone] at h
    cases h
  | @leaf name h => rw [show name = "builtins.None" from hkey]
  | array hk _ _ => exact absurd hkey (ne_none_of_bracket (hk ▸ last_bracket _))
  | generic hk _ _ => exact absurd hkey (ne_none_of_bracket (hk ▸ last_bracket _))

/-- The two types that may be absent, of one type. -/
theorem exists_operand (hloads : Extracted loads) (he : Sound loads e) (hr : Resolves refs (loaded loads) e)
    (hnone : (loaded loads).get? "builtins.None" = none) (hoptional : TypeRef.Alone refs r.optional)
    (horNone : TypeRef.Alone refs r.orNone) {t u : Descriptor} (ht : e.resolved.lookup r.optional.key = some t)
    (hu : e.resolved.lookup r.orNone.key = some u) : ∃ x, e.resolved.lookup r.key = some x ∧
      t = .generic r.optional.key optionalOrigin [x] ∧
      u = .generic r.orNone.key "typing.Union" [x, leafOfName "builtins.None"] := by
  obtain ⟨ts, hts, rfl⟩ := generic_of_lookup hloads he hr hoptional ht
  obtain ⟨us, hus, rfl⟩ := generic_of_lookup hloads he hr horNone hu
  obtain ⟨x, _, hx, hnil, rfl⟩ := List.forall₂_cons_left_iff.mp hts
  obtain ⟨y, _, hy, hrest, rfl⟩ := List.forall₂_cons_left_iff.mp hus
  obtain ⟨n, _, hn, hnil', rfl⟩ := List.forall₂_cons_left_iff.mp hrest
  rw [List.forall₂_nil_left_iff.mp hnil, List.forall₂_nil_left_iff.mp hnil',
    Option.some.inj (hy.symm.trans hx), eq_none_of_lookup he hnone hn]
  exact ⟨x, hx, rfl, rfl⟩

/-! ## Properties of classes -/

/-- The catalogue has a property for what a class declares. -/
structure Given (c : Catalogue) (f : PropertyFacts) (a : Property) : Prop where
  held : Holds c.resolved f.type
  shown : a = propertyIn c.resolved f

theorem Given.lookup {f : PropertyFacts} {a : Property} (h : Given c f a) :
    c.resolved.lookup f.type.key = some a.type := by
  obtain ⟨t, ht⟩ := h.held
  rw [ht, h.shown, propertyIn, meaning_of_lookup ht]

/-- The properties that a class answers with are given for what it declares. -/
theorem given_of_mem_properties (hc : Sound loads c) {n : Nat} {facts : ClassFacts}
    (hfacts : (classesIn loads)[n]? = some facts) {a : Property} (ha : a ∈ (properties (.declared n facts) c).1) :
    ∃ f ∈ facts.properties, Given (properties (.declared n facts) c).2 f a := by
  rw [properties, settledOr] at ha ⊢
  split at ha
  · rename_i answer hsettled
    obtain ⟨rfl, hholds⟩ := (hc.tied_settledAt hfacts).properties answer hsettled
    obtain ⟨f, hf, rfl⟩ := List.mem_map.mp ha
    exact ⟨f, hf, hholds f hf, rfl⟩
  · obtain ⟨_, hholds, hanswer⟩ := (Finds.mapM (finds_resolveProperty loads) facts.properties).run c hc
    change a ∈ (facts.properties.mapM resolveProperty c).1 at ha
    rw [hanswer] at ha
    obtain ⟨f, hf, rfl⟩ := List.mem_map.mp ha
    exact ⟨f, hf, hholds _ (List.mem_flatMap.mpr ⟨f, hf, List.mem_singleton_self _⟩), rfl⟩

/-! ## Models -/

/-- The type is neither excluded nor a model, and has accepted bases. -/
structure HidesBases (p : Policy) (c : Catalogue) (x : Descriptor) : Prop where
  kept : p.isExcluded x = false
  noModel : (p.isModel view x c).1 = false
  base : ∃ b ∈ (view.bases x c).1, (p.accepts view b c).1 = true

theorem referenced_orNone {x : Descriptor} {key : String}
    (hkept : p.isExcluded (.generic key "typing.Union" [x, leafOfName "builtins.None"]) = false) :
    (referenced p c.reading (.generic key "typing.Union" [x, leafOfName "builtins.None"])).run =
      if (followsArgument p c.reading x).run = true then (referenced p c.reading x).run else .empty := by
  have hunion := TypeSet.empty_union (nodup_referenced (v := c.reading) p x)
  rw [referenced, hkept, if_neg Bool.false_ne_true]
  -- None is neither a model nor a wrapper, so that it is not followed.
  change Id.run (if (followsArgument p c.reading x).run = true then
      (TypeSet.empty.union (referenced p c.reading x).run : Id TypeSet) else (TypeSet.empty : Id TypeSet)) = _
  rw [hunion]
  split <;> rfl

/-- A type that is not followed leads to its accepted bases alone. -/
theorem mem_keys_of_not_follows {x : Descriptor} (hx : ¬ (followsArgument p c.reading x).run = true) {k : String} :
    k ∈ (referenced p c.reading x).run.keys ↔ p.isExcluded x = false ∧
      ∃ b ∈ (c.reading.bases x).run, (p.accepts c.reading b).run = true ∧ k = b.key := by
  rw [Reach.followsArgument_iff, not_or] at hx
  obtain ⟨hm, hwrapper⟩ := hx
  cases x with
  | declared n facts =>
    simp only [referenced]
    exact Reach.mem_keys_leaf.trans (and_congr_right fun _ => or_iff_right fun h => hm h.1)
  | leaf form =>
    simp only [referenced]
    exact Reach.mem_keys_leaf.trans (and_congr_right fun _ => or_iff_right fun h => hm h.1)
  | array _ _ _ => exact absurd rfl hwrapper
  | generic _ _ _ => exact absurd rfl hwrapper

/-- The types with hidden bases are those that are not followed and yet lead to models. -/
theorem hidesBases_iff (hc : Sound loads c) (he : Sound loads e) {x : Descriptor} (hx : Current loads x) :
    HidesBases p c x ↔ ¬ (followsArgument p e.reading x).run = true ∧ (referenced p e.reading x).run.keys ≠ [] := by
  have hbases := answers_bases hx.known
  have hd : Sound loads (bases x c).2 := hbases.sound hc
  have hshown : ((bases x c).2.reading.bases x).run = (view.bases x c).1 := hbases.shown hc
  have haccepts : ∀ b ∈ (view.bases x c).1,
      (p.accepts view b c).1 = (p.accepts (bases x c).2.reading b).run := by
    intro b hb
    rw [← hshown] at hb
    have hcurrent : Current loads b := current_of_mem_bases hd.resolved hb
    rw [Reach.accepts_view hc hcurrent.known, Reach.accepts_reading hc hd]
  rw [Reach.followsArgument_reading he hd, Reach.referenced_reading he hd]
  constructor
  · rintro ⟨hkept, hm, b, hb, ha⟩
    rw [Reach.isModel_view hc hd hx.known] at hm
    -- Only classes have bases.
    have hwrapper : ((bases x c).2.reading.kind x).run.isWrapper = false := by
      cases x with
      | declared n facts => exact Reach.isWrapper_reading hd n facts
      | leaf _ => exact absurd hb List.not_mem_nil
      | array _ _ _ => exact absurd hb List.not_mem_nil
      | generic _ _ _ => exact absurd hb List.not_mem_nil
    have hfollows : ¬ (followsArgument p (bases x c).2.reading x).run = true := by
      rw [Reach.followsArgument_iff, hm, hwrapper]
      decide
    refine ⟨hfollows, List.ne_nil_of_mem ((mem_keys_of_not_follows hfollows).mpr ⟨hkept, b, ?_, ?_, rfl⟩)⟩
    · rw [hshown]
      exact hb
    · rw [← haccepts b hb]
      exact ha
  · rintro ⟨hfollows, hne⟩
    obtain ⟨k, hk⟩ := List.exists_mem_of_ne_nil _ hne
    obtain ⟨hkept, b, hb, ha, _⟩ := (mem_keys_of_not_follows hfollows).mp hk
    rw [hshown] at hb
    refine ⟨hkept, ?_, b, hb, ?_⟩
    · rw [Reach.isModel_view hc hd hx.known]
      exact eq_false_of_ne_true fun hm => hfollows (Reach.followsArgument_iff.mpr (Or.inl hm))
    · rw [haccepts b hb]
      exact ha

/-! ## Both ways -/

theorem propertySchema_optional (x : Descriptor) (key key' : String) :
    (propertySchema c.reading (.generic key optionalOrigin [x])).run =
      (propertySchema c.reading (.generic key' "typing.Union" [x, leafOfName "builtins.None"])).run := by
  have hnone : (propertySchema c.reading (leafOfName "builtins.None")).run = .null := by
    simp only [leafOfName, propertySchema]
    rfl
  simp [propertySchema, argumentSchemas, genericSchema, choiceOrigins, optionalOrigin, hnone]

theorem requiredNames_cons_of_isOptional {a : Property} (ha : a.type.isOptional = true) (before after : List Property) :
    requiredNames (before ++ a :: after) = requiredNames (before ++ after) := by
  rw [requiredNames, requiredNames, List.filter_append, List.filter_append, List.filter_cons_of_neg]
  simp [ha]

/-- A choice between a type and None leads to what the type leads to on its own, unless it hides bases. -/
theorem referenced_orNone_eq_iff (hc : Sound loads c) (hd : Sound loads d) {x : Descriptor} {key : String}
    (hx : Current loads x) (hchoice : Current loads (.generic key "typing.Union" [x, leafOfName "builtins.None"])) :
    (referenced p view x c).1 = (referenced p view (.generic key "typing.Union" [x, leafOfName "builtins.None"]) d).1 ↔
      ¬ HidesBases p c x := by
  rw [Reach.referenced_view hc hc hx, Reach.referenced_view hd hc hchoice,
    referenced_orNone (isExcluded_generic p hchoice), hidesBases_iff hc hc hx]
  split
  · rename_i hfollows
    exact iff_of_true rfl fun h => h.1 hfollows
  · rename_i hfollows
    rw [not_and_not_right, imp_iff_right hfollows]
    constructor
    · intro h
      rw [h]
      rfl
    · exact fun h => congrArg TypeSet.mk (List.map_eq_nil_iff.mp h)

/-- Take properties whose types were written as an optional type, and as a choice between the same type and None, in a
catalogue in use. If no other reference that was resolved has the key of either, and no class is registered as None,
they have the same schema at all times, and neither is required. They lead to the same models if, and only if, the type
that may be absent does not hide bases. -/
theorem optional_orNone (p : Policy) (hloads : Extracted loads)
    (hnone : (loaded loads).get? "builtins.None" = none) (he : InUse loads e) (hr : Resolves refs (loaded loads) e)
    (hoptional : TypeRef.Alone refs r.optional) (horNone : TypeRef.Alone refs r.orNone) {f g : PropertyFacts}
    (hf : f.type = r.optional) (hg : g.type = r.orNone) {a b : Property} (ha : Given e f a) (hb : Given e g b)
    (hc : InUse loads c) (hd : InUse loads d) :
    (propertySchema view a.type c).1 = (propertySchema view b.type d).1 ∧
    (∀ before after, requiredNames (before ++ a :: after) = requiredNames (before ++ after) ∧
      requiredNames (before ++ b :: after) = requiredNames (before ++ after)) ∧
    e.resolved.lookup r.key = some a.effectiveType ∧
    ((referenced p view a.effectiveType c).1 = (referenced p view b.effectiveType d).1 ↔
      ¬ HidesBases p c a.effectiveType) := by
  have hla := ha.lookup
  have hlb := hb.lookup
  rw [hf] at hla
  rw [hg] at hlb
  have hca := he.sound.resolved.current _ _ hla
  have hcb := he.sound.resolved.current _ _ hlb
  obtain ⟨x, hx, hta, htb⟩ := exists_operand hloads he.sound hr hnone hoptional horNone hla hlb
  have hea : a.effectiveType = x := by rw [Property.effectiveType, hta]
  have heb : b.effectiveType = b.type := by rw [Property.effectiveType, htb]
  rw [hea, heb]
  refine ⟨?_, fun before after => ?_, hx, ?_⟩
  · rw [Reach.propertySchema_view hc.sound hc.sound hca, Reach.propertySchema_view hd.sound hc.sound hcb, hta, htb]
    exact propertySchema_optional x _ _
  · have hoa : a.type.isOptional = true := by rw [hta]; rfl
    have hob : b.type.isOptional = true := by
      rw [htb]
      simp [Descriptor.isOptional, leafOfName, Descriptor.qualifiedName]
    exact ⟨requiredNames_cons_of_isOptional hoa before after, requiredNames_cons_of_isOptional hob before after⟩
  · rw [htb] at hcb ⊢
    exact referenced_orNone_eq_iff hc.sound hd.sound (he.sound.resolved.current _ _ hx) hcb

/-! ## A class with both -/

def absentTree : Files.FileTree :=
  ⟨[(["r"], .directory), (["r", "m.py"], .file (Text.ofString
    "import typing\nclass A:\n  pass\nclass O:\n  a: typing.Optional[A]\n  b: A | None\n"))], [], []⟩

-- Proofs do not look into the file; evaluation does.
@[irreducible] def absentLoads : List ModuleFacts := (readFacts absentTree letterFile).toOption.toList

def absentOwner : Descriptor := ((loaded absentLoads).get? "m.O").getD (leafOfName "m.O")

/-- The catalogue when the class has been asked for its properties. -/
def absentAsked : Catalogue := (properties absentOwner (loaded absentLoads)).2

def absentProperty (n : Nat) : Property :=
  ((properties absentOwner (loaded absentLoads)).1[n]?).getD ⟨"", absentOwner, false, []⟩

/-- What evaluation tells about the class. -/
theorem absent_facts : ((loaded absentLoads).get? "m.O").isSome = true ∧
    (loaded absentLoads).get? "builtins.None" = none ∧
    (properties absentOwner (loaded absentLoads)).1.length = 2 ∧
    (absentProperty 0).type.key = "typing.Optional[m.A]" ∧
    (absentProperty 1).type.key = "typing.Union[m.A, builtins.None]" ∧
    (∀ x ∈ written absentLoads, x.isWellFormed = true) ∧
    (Policy.isModel .usual view (absentProperty 0).effectiveType absentAsked).1 = true ∧
    (referenced .usual view (absentProperty 0).effectiveType absentAsked).1.keys = ["m.A"] := by
  decide +kernel

theorem registered_absentOwner : Registered absentLoads absentOwner := by
  obtain ⟨t, ht⟩ := Option.isSome_iff_exists.mp absent_facts.1
  rw [absentOwner, ht]
  exact registered_of_get? ht

theorem inUse_absentAsked : InUse absentLoads absentAsked :=
  (inUse_loaded absentLoads).properties registered_absentOwner

/-- The class answers with types for what was written, as their keys tell. -/
theorem given_absentProperty {n : Nat} (hn : n < (properties absentOwner (loaded absentLoads)).1.length) {r : TypeRef}
    (hr : r.isWellFormed = true) (hkey : (absentProperty n).type.key = r.key) :
    ∃ f, f.type = r ∧ Given absentAsked f (absentProperty n) := by
  obtain ⟨_, _, _, _, _, hwritten, _⟩ := absent_facts
  have hmem : absentProperty n ∈ (properties absentOwner (loaded absentLoads)).1 := by
    rw [absentProperty, List.getElem?_eq_getElem hn]
    exact List.getElem_mem hn
  obtain ⟨number, facts, hfacts, howner⟩ := registered_absentOwner
  rw [howner] at hmem
  obtain ⟨f, hf, hgiven⟩ := given_of_mem_properties (sound_loaded absentLoads) hfacts hmem
  rw [← howner] at hgiven
  refine ⟨f, TypeRef.keyed_isWellFormed _ _ (hwritten _ ?_) hr ?_, hgiven⟩
  · exact propertyRefs_subset hfacts (List.mem_flatMap.mpr ⟨f, hf, List.mem_singleton_self _⟩)
  · rw [← hkey]
    exact (inUse_absentAsked.sound.resolved.key_eq _ _ hgiven.lookup).symm

/-- Of the properties of one class, one is optional and one a choice. -/
theorem optional_orNone_absent :
    (absentProperty 0).type.key = "typing.Optional[m.A]" ∧
    (absentProperty 1).type.key = "typing.Union[m.A, builtins.None]" ∧
    (propertySchema view (absentProperty 0).type absentAsked).1 =
      (propertySchema view (absentProperty 1).type absentAsked).1 ∧
    requiredNames [absentProperty 0, absentProperty 1] = [] ∧
    (referenced .usual view (absentProperty 0).effectiveType absentAsked).1.keys = ["m.A"] ∧
    (referenced .usual view (absentProperty 1).effectiveType absentAsked).1 =
      (referenced .usual view (absentProperty 0).effectiveType absentAsked).1 := by
  obtain ⟨_, hnone, hlength, hfirst, hsecond, hwritten, hmodel, hkeys⟩ := absent_facts
  have hloads : Extracted absentLoads := by
    unfold absentLoads
    exact extracted_toList absentTree letterFile
  have hoptional : (TypeRef.named "m.A").optional.isWellFormed = true := by decide +kernel
  have horNone : (TypeRef.named "m.A").orNone.isWellFormed = true := by decide +kernel
  have hr : Resolves (written absentLoads) (loaded absentLoads) absentAsked :=
    (answers_properties registered_absentOwner.known).resolves _ (sound_loaded absentLoads)
  obtain ⟨f, hf, ha⟩ := given_absentProperty (n := 0) (by omega) hoptional hfirst
  obtain ⟨g, hg, hb⟩ := given_absentProperty (n := 1) (by omega) horNone hsecond
  obtain ⟨hschema, hrequired, _, hmodels⟩ := optional_orNone .usual hloads hnone inUse_absentAsked hr
    (TypeRef.alone_of_isWellFormed hwritten hoptional) (TypeRef.alone_of_isWellFormed hwritten horNone) hf hg ha hb
    inUse_absentAsked inUse_absentAsked
  have hnames := (hrequired [] [absentProperty 1]).1.trans (hrequired [] []).2
  have hshown : ¬ HidesBases .usual absentAsked (absentProperty 0).effectiveType := fun h =>
    Bool.false_ne_true (h.noModel.symm.trans hmodel)
  exact ⟨hfirst, hsecond, hschema, hnames, hkeys, (hmodels.mpr hshown).symm⟩

/-! ## Where the two ways part -/

/-- The two properties for a type, as a catalogue gives them one after the other. -/
def askBoth (r : TypeRef) : StateM Catalogue (Property × Property) := do
  let a ← resolveProperty ⟨"a", r.optional, false, []⟩
  let b ← resolveProperty ⟨"b", r.orNone, false, []⟩
  pure (a, b)

/-- The models that the two properties lead to. -/
def askModels (p : Policy) (r : TypeRef) : StateM Catalogue (List String × List String) := do
  let (a, b) ← askBoth r
  let optional ← referenced p view a.effectiveType
  let choice ← referenced p view b.effectiveType
  pure (optional.keys, choice.keys)

/-- A class whose name was written in letters that are normalized to those of None. -/
def noneFacts : ModuleFacts :=
  ⟨"builtins", "builtins.py", [], [⟨"None", "builtins", [], [], none, [], [], []⟩]⟩

/-- The choice hides the base of an interface. An optional type is required like any other, if its key was resolved as a
name before. And a class that is registered as None is a model, if the policy does not exclude it. -/
theorem not_optional_orNone :
    (askModels .usual (.named "m.P") shapes).1 = (["m.A"], []) ∧
    (requiredNames [(askBoth (.named "m.A") (resolve (.named "typing.Optional[m.A]") .empty).2).1.1] = ["a"] ∧
      requiredNames [(askBoth (.named "m.A") (resolve (.named "typing.Optional[m.A]") .empty).2).1.2] = []) ∧
    (askModels ⟨defaultIgnoreMarker, []⟩ (.named "m.A") (empty.register noneFacts)).1 =
      ([], ["builtins.None"]) := by
  decide +kernel

end Catalogue
end ModelReach
