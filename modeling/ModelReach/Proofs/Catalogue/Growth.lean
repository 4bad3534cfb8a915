import ModelReach.Proofs.Catalogue.Sound

/-! How tables of resolved types grow. Questions resolve nothing but references that are written in classes, and
look neither at the failures nor at the files. If no key can ever come to stand for two types, catalogues that have been asked
different questions have a later catalogue in common. -/
namespace ModelReach.Catalogue
set_option autoImplicit false

variable {α β : Type}

/-! ## Written references -/

def baseRefs (facts : ClassFacts) : List TypeRef := (baseNames facts).map TypeRef.named

def propertyRefs (facts : ClassFacts) : List TypeRef := facts.properties.flatMap fun p => [p.type]

def methodRefs (facts : ClassFacts) : List TypeRef :=
  facts.methods.flatMap fun f => f.returns.toList ++ f.parameters.flatMap fun p => p.type.toList

/-- The references in a class, to its bases and to the types of its members. -/
def refsOf (facts : ClassFacts) : List TypeRef := baseRefs facts ++ propertyRefs facts ++ methodRefs facts

/-- All references in the classes that were read. -/
def written (loads : List ModuleFacts) : List TypeRef := (classesIn loads).flatMap refsOf

section Written
variable {loads : List ModuleFacts} {n : Nat} {facts : ClassFacts} (hf : (classesIn loads)[n]? = some facts)
include hf

theorem refsOf_subset : refsOf facts ⊆ written loads := fun _ hr =>
  List.mem_flatMap.mpr ⟨facts, List.mem_of_getElem? hf, hr⟩

theorem baseRefs_subset : baseRefs facts ⊆ written loads := fun _ hr =>
  refsOf_subset hf (List.mem_append_left _ (List.mem_append_left _ hr))

theorem propertyRefs_subset : propertyRefs facts ⊆ written loads := fun _ hr =>
  refsOf_subset hf (List.mem_append_left _ (List.mem_append_right _ hr))

theorem methodRefs_subset : methodRefs facts ⊆ written loads := fun _ hr =>
  refsOf_subset hf (List.mem_append_right _ hr)

end Written

/-! ## Growth -/

/-- The table of a catalogue has grown by resolving some references, and not otherwise. -/
inductive Resolves (refs : List TypeRef) (before : Catalogue) : Catalogue → Prop
  | start : Resolves refs before before
  | resolve {c : Catalogue} (h : Resolves refs before c) {r : TypeRef} (hr : r ∈ refs) :
    Resolves refs before (resolve r c).2
  | same {c d : Catalogue} (h : Resolves refs before c) (he : d.resolved = c.resolved) :
    Resolves refs before d

section Resolves
variable {refs : List TypeRef} {a b c : Catalogue}

theorem Resolves.trans (h₁ : Resolves refs a b) (h₂ : Resolves refs b c) : Resolves refs a c := by
  induction h₂ with
  | start => exact h₁
  | resolve _ hr ih => exact ih.resolve hr
  | same _ he ih => exact ih.same he

theorem Resolves.mono {more : List TypeRef} (h : Resolves refs a b) (hs : refs ⊆ more) :
    Resolves more a b := by
  induction h with
  | start => exact Resolves.start
  | resolve _ hr ih => exact ih.resolve (hs hr)
  | same _ he ih => exact ih.same he

theorem resolves_resolve (r : TypeRef) (c : Catalogue) : Resolves [r] c (resolve r c).2 :=
  Resolves.start.resolve (List.mem_singleton_self r)

theorem resolves_resolveAll (refs : List TypeRef) (c : Catalogue) : Resolves refs c (resolveAll refs c).2 := by
  induction refs generalizing c with
  | nil => exact Resolves.start
  | cons r refs ih =>
    have hfirst : Resolves (r :: refs) c (resolve r c).2 :=
      (resolves_resolve r c).mono (List.cons_subset_cons r (List.nil_subset refs))
    rw [resolveAll]
    exact hfirst.trans ((ih (resolve r c).2).mono (List.subset_cons_self r refs))

end Resolves

/-! ## Failures and files -/

/-- The question looks neither at the failures of the catalogue nor at the files that it knows, and keeps both. -/
def Unheeding (x : StateM Catalogue α) (c : Catalogue) : Prop :=
  ∀ failures modules, x { c with failures := failures, modules := modules } =
    ((x c).1, { (x c).2 with failures := failures, modules := modules })

theorem Unheeding.pure (a : α) (c : Catalogue) : Unheeding (pure a) c := fun _ _ => rfl

theorem Unheeding.bind {x : StateM Catalogue α} {f : α → StateM Catalogue β} {c : Catalogue}
    (hx : Unheeding x c) (hf : Unheeding (f (x c).1) (x c).2) : Unheeding (x >>= f) c := by
  intro failures modules
  change f (x { c with failures := failures, modules := modules }).1
    (x { c with failures := failures, modules := modules }).2 = _
  rw [hx failures modules]
  exact hf failures modules

theorem Unheeding.failures {x : StateM Catalogue α} {c : Catalogue} (h : Unheeding x c) :
    (x c).2.failures = c.failures := by
  have hsame := congrArg (fun answer => answer.2.failures) (h c.failures c.modules)
  exact hsame

theorem Unheeding.modules {x : StateM Catalogue α} {c : Catalogue} (h : Unheeding x c) :
    (x c).2.modules = c.modules := by
  have hsame := congrArg (fun answer => answer.2.modules) (h c.failures c.modules)
  exact hsame

/-- Other failures alone make no difference. -/
theorem Unheeding.failed {x : StateM Catalogue α} {c : Catalogue} (h : Unheeding x c)
    (failures : List (String × Option String)) :
    x { c with failures := failures } = ((x c).1, { (x c).2 with failures := failures }) := by
  refine (h failures c.modules).trans ?_
  rw [← h.modules]

theorem unheeding_keptOr {key : String} {make : StateM Catalogue Descriptor} {c : Catalogue}
    (h : Unheeding make c) : Unheeding (keptOr key make) c := by
  intro failures modules
  unfold keptOr
  dsimp only
  cases c.resolved.lookup key with
  | some t => rfl
  | none => exact h.bind (f := keep key) (fun _ _ => rfl) failures modules

mutual

theorem unheeding_resolve : ∀ (r : TypeRef) (c : Catalogue), Unheeding (resolve r) c
  | .named name, c => by
    rw [resolve]
    exact unheeding_keptOr (Unheeding.pure _ c)
  | .array element unique, c => by
    rw [resolve]
    exact unheeding_keptOr ((unheeding_resolve element c).bind (Unheeding.pure _ _))
  | .generic origin args, c => by
    rw [resolve]
    exact unheeding_keptOr ((unheeding_resolveAll args c).bind (Unheeding.pure _ _))

theorem unheeding_resolveAll : ∀ (refs : List TypeRef) (c : Catalogue), Unheeding (resolveAll refs) c
  | [], c => Unheeding.pure _ c
  | r :: refs, c => by
    rw [resolveAll]
    exact (unheeding_resolve r c).bind ((unheeding_resolveAll refs _).bind (Unheeding.pure _ _))

end

theorem unheeding_settledOr {n : Nat} {get : Settled → Option α} {set : α → Settled → Settled}
    {find : StateM Catalogue α} {c : Catalogue} (h : Unheeding find c) :
    Unheeding (settledOr n get set find) c := by
  intro failures modules
  unfold settledOr
  rw [show ({ c with failures := failures, modules := modules } : Catalogue).settledAt n = c.settledAt n from rfl]
  cases get (c.settledAt n) with
  | some a => rfl
  | none => exact h.bind (f := fun a => settle n (set a) >>= fun _ => pure a) (fun _ _ => rfl) failures modules

/-! ## One type for each key -/

/-- No key stands for two types: neither among the classes that were read, nor among the types that references
are ever resolved to, whichever are resolved first. -/
structure OneForKey (loads : List ModuleFacts) (c : Catalogue) : Prop where
  classes : ∀ t t', Registered loads t → Registered loads t' → t.key = t'.key → t = t'
  held : ∀ d e, Resolves (written loads) c d → Resolves (written loads) c e → ∀ k t t',
    d.resolved.lookup k = some t → e.resolved.lookup k = some t' → t = t'

variable {loads : List ModuleFacts}

theorem OneForKey.later {c d : Catalogue} (h : OneForKey loads c) (hd : Resolves (written loads) c d) :
    OneForKey loads d where
  classes := h.classes
  held a b ha hb := h.held a b (hd.trans ha) (hd.trans hb)

/-- A catalogue that knows all that two others know. -/
def joined (c d : Catalogue) : Catalogue := { c with resolved := c.resolved ++ d.resolved }

theorem lookup_joined (c d : Catalogue) (k : String) :
    (joined c d).resolved.lookup k = (c.resolved.lookup k).or (d.resolved.lookup k) :=
  List.lookup_append

/-- Two catalogues whose tables do not disagree have a later one in common. -/
theorem exists_later {c d : Catalogue} (hc : Sound loads c) (hd : Sound loads d)
    (h : ∀ k t t', c.resolved.lookup k = some t → d.resolved.lookup k = some t' → t = t') :
    ∃ e, Follows loads c e ∧ Follows loads d e := by
  have hleft : Extends c.resolved (joined c d).resolved := by
    intro k t ht
    rw [lookup_joined, ht, Option.some_or]
  have hright : Extends d.resolved (joined c d).resolved := by
    intro k t ht
    rw [lookup_joined]
    cases hl : c.resolved.lookup k with
    | none => rw [Option.none_or, ht]
    | some t' => rw [Option.some_or, h k t' t hl ht]
  have hor : ∀ {k t}, (joined c d).resolved.lookup k = some t →
      c.resolved.lookup k = some t ∨ d.resolved.lookup k = some t := by
    intro k t ht
    rw [lookup_joined, Option.or_eq_some_iff] at ht
    exact ht.imp_right And.right
  have hsound : Sound loads (joined c d) :=
    { edges := hc.edges
      byModule := hc.byModule
      declared := hc.declared
      size := hc.size
      resolved :=
        { present := fun k t ht => hleft k t (hc.resolved.present k t ht)
          key_eq := fun k t ht => (hor ht).elim (hc.resolved.key_eq k t) (hd.resolved.key_eq k t)
          current := fun k t ht => (hor ht).elim (hc.resolved.current k t) (hd.resolved.current k t) }
      tied := fun n facts s hf hs => (hc.tied n facts s hf hs).mono hleft }
  exact ⟨joined c d, ⟨hsound, hleft⟩, ⟨hsound, hright⟩⟩

end ModelReach.Catalogue
