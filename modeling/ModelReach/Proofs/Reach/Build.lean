import ModelReach.Proofs.Reach.Closure

/-! A whole build. Everything that enters the set of models, in any phase, is an accepted class, and what
properties of models lead to is among the models in the end. -/
namespace ModelReach.Reach
set_option autoImplicit false

open Catalogue

variable {loads : List ModuleFacts} {p : Policy} {o : SetOrder}

/-- A set of types that all satisfy a condition, no two with the same key. -/
structure SetOf (P : Descriptor → Prop) (s : TypeSet) : Prop where
  all : ∀ t ∈ s.members, P t
  distinct : s.keys.Nodup

section SetOf
variable {P : Descriptor → Prop} {s : TypeSet}

theorem SetOf.empty : SetOf P .empty := ⟨fun _ h => absurd h List.not_mem_nil, List.nodup_nil⟩

theorem SetOf.insert (h : SetOf P s) {t : Descriptor} (ht : P t) : SetOf P (s.insert t) where
  all x hx := by
    rcases TypeSet.mem_of_mem_insert hx with hx | rfl
    · exact h.all x hx
    · exact ht
  distinct := TypeSet.nodup_insert h.distinct t

theorem SetOf.union (h : SetOf P s) {more : TypeSet} (hm : ∀ t ∈ more.members, P t) :
    SetOf P (s.union more) where
  all x hx := (TypeSet.mem_of_mem_insertAll hx).elim (h.all x) (hm x)
  distinct := TypeSet.nodup_insertAll h.distinct more.members

end SetOf

/-! ## Direct models -/

theorem answers_addMethodModels (p : Policy) (found : TypeSet) {method : Method}
    (hm : CurrentMethod loads method) :
    Answers loads (addMethodModels p view found method)
      (fun c => addMethodModels p c.reading found method) :=
  (answers_methodModels p hm).bind fun _ _ => Answers.pure _

theorem answers_addEntryModels (p : Policy) (found : TypeSet) {entry : Descriptor}
    (he : Known loads entry) :
    Answers loads (addEntryModels p view found entry) (fun c => addEntryModels p c.reading found entry) :=
  (answers_methods he).bind fun _ hd => Answers.foldlM (fun found _ hm =>
    answers_addMethodModels p found (current_of_mem_methods hd.resolved hm)) _

theorem answers_collectDirect (p : Policy) {entries : List Descriptor} (he : ∀ t ∈ entries, Known loads t) :
    Answers loads (collectDirect p view entries) (fun c => collectDirect p c.reading entries) :=
  Answers.foldlM (fun found entry h => answers_addEntryModels p found (he entry h)) _

theorem standing_of_mem_methodModels {c : Catalogue} (hc : Sound loads c) {method : Method}
    (hm : CurrentMethod loads method) :
    ∀ t ∈ (methodModels p c.reading method).run.members, Standing loads p t := by
  obtain ⟨name, returns, parameters⟩ := method
  have hparameters : ∀ found : TypeSet, (∀ t ∈ found.members, Standing loads p t) →
      ∀ t ∈ (parameters.foldlM (addParameterModels p c.reading) found).run.members, Standing loads p t := by
    intro found hfound
    refine foldlM_keeps (P := fun found : TypeSet => ∀ t ∈ found.members, Standing loads p t)
      (fun found hfound q hq => ?_) hfound
    have hq' := hm.parameters q hq
    obtain ⟨_, type, tags⟩ := q
    cases type with
    | none => exact hfound
    | some u =>
      change ∀ t ∈ (Id.run (if p.ignores tags = true then pure found else _)).members, _
      split
      · exact hfound
      · intro t ht
        rcases TypeSet.mem_of_mem_insertAll ht with ht | ht
        · exact hfound t ht
        · exact standing_of_mem_referenced hc (hq' u rfl) ht
  cases returns with
  | none => exact hparameters _ fun _ h => absurd h List.not_mem_nil
  | some u => exact hparameters _ fun t ht => standing_of_mem_referenced hc (hm.returns u rfl) ht

theorem setOf_collectDirect {c : Catalogue} (hc : Sound loads c) (entries : List Descriptor) :
    SetOf (Standing loads p) (collectDirect p c.reading entries).run :=
  foldlM_keeps (P := SetOf (Standing loads p)) (fun _ hfound _ _ =>
    foldlM_keeps (P := SetOf (Standing loads p)) (fun _ hfound _ hm =>
      hfound.union (standing_of_mem_methodModels hc (current_of_mem_methods hc.resolved hm))) hfound)
    SetOf.empty

/-! ## Derived models -/

theorem answers_addDerived (p : Policy) (model : Descriptor) (models : TypeSet) {candidate : Descriptor}
    (hc : Known loads candidate) :
    Answers loads (addDerived p view model models candidate)
      (fun c => addDerived p c.reading model models candidate) :=
  (answers_isStrictSubtype hc model).bind fun _ _ => Answers.ite
    (fun _ => (answers_accepts p hc).bind fun _ _ =>
      Answers.ite (fun _ => Answers.pure _) fun _ => Answers.pure _)
    fun _ => Answers.pure _

theorem registered_of_mem_moduleTypes {c : Catalogue} (hc : Sound loads c) {module : String}
    {t : Descriptor} (h : t ∈ (c.reading.moduleTypes module).run) : Registered loads t := by
  change t ∈ c.classesOf module at h
  rw [hc.classesOf] at h
  exact registered_of_mem_classesOf h

theorem answers_addDerivedOf (p : Policy) (models : TypeSet) (model : Descriptor) :
    Answers loads (addDerivedOf p view models model) (fun c => addDerivedOf p c.reading models model) := by
  unfold addDerivedOf
  cases model.module? with
  | none => exact Answers.pure _
  | some module =>
    exact (answers_moduleTypes module).bind fun _ hd => Answers.foldlM (fun _ _ hm =>
      answers_addDerived p model _ (registered_of_mem_moduleTypes hd hm).known) _

theorem answers_expandDerived (p : Policy) (o : SetOrder) (implementing : TypeSet) :
    Answers loads (expandDerived p view o implementing)
      (fun c => expandDerived p c.reading o implementing) :=
  Answers.foldlM (fun _ _ _ => answers_addDerivedOf p _ _) _

/-- The set has grown to one of accepted classes. -/
structure Grown (loads : List ModuleFacts) (p : Policy) (before after : TypeSet) : Prop
    extends SetOf (Accepted loads p) after where
  kept : ∀ t ∈ before.members, t ∈ after.members

theorem Grown.addDerived {c : Catalogue} (hc : Sound loads c) {before s : TypeSet}
    (h : Grown loads p before s) (model : Descriptor) {candidate : Descriptor}
    (hr : Registered loads candidate) :
    Grown loads p before (addDerived p c.reading model s candidate).run := by
  change Grown loads p before (Id.run (if (c.reading.isStrictSubtype candidate model).run = true then
    if (p.accepts c.reading candidate).run = true then pure (s.insert candidate) else pure s else pure s))
  split
  · split
    · rename_i ha
      exact ⟨h.toSetOf.insert (accepted_of_known hc hr.known ha), fun t ht =>
        TypeSet.mem_insert_of_mem candidate (h.kept t ht)⟩
    · exact h
  · exact h

theorem grown_expandDerived {c : Catalogue} (hc : Sound loads c) {implementing : TypeSet}
    (h : SetOf (Accepted loads p) implementing) :
    Grown loads p implementing (expandDerived p c.reading o implementing).run := by
  refine foldlM_keeps (P := Grown loads p implementing) (fun s hs model _ => ?_) ⟨h, fun _ ht => ht⟩
  unfold addDerivedOf
  cases model.module? with
  | none => exact hs
  | some module =>
    exact foldlM_keeps (P := Grown loads p implementing) (fun s hs candidate hm =>
      hs.addDerived hc model (registered_of_mem_moduleTypes hc hm)) hs

/-! ## The build -/

/-- What a build finds, and leaves to be asked: accepted classes, those of each phase among those of the
next, and with each model all that its properties lead to. -/
structure Built (loads : List ModuleFacts) (p : Policy) (before : Catalogue) (reached : Reachability)
    (after : Catalogue) : Prop where
  follows : Follows loads before after
  implementing : ∀ t ∈ reached.implementing.members, t ∈ reached.models.members
  models : SetOf (Accepted loads p) reached.models
  closed : ∀ m ∈ reached.models.members, ∀ d, Follows loads after d → ∀ f, ShowsTo p d.reading m f →
    f.key ∈ reached.models.keys

theorem build_run (c : Catalogue) (entryTypes : List Descriptor) :
    (build p view o entryTypes) c =
      let direct := collectDirect p view ((TypeSet.ofList entryTypes).visit o) c
      let expanded := expandDerived p view o direct.1 direct.2
      let closed := closeProperties p view o expanded.1 expanded.2
      (⟨TypeSet.ofList entryTypes, direct.1, expanded.1, closed.1⟩, closed.2) := rfl

theorem setOf_direct {c : Catalogue} (hc : Sound loads c) (p : Policy) {entries : List Descriptor}
    (he : ∀ t ∈ entries, Known loads t) :
    Follows loads c (collectDirect p view entries c).2 ∧
      SetOf (Standing loads p) (collectDirect p view entries c).1 := by
  obtain ⟨hf, ha⟩ := (answers_collectDirect p he).run c hc
  refine ⟨hf, ?_⟩
  rw [← ha _ (Follows.refl hf.sound)]
  exact setOf_collectDirect hf.sound entries

theorem grown_derived {c : Catalogue} (hc : Sound loads c) (o : SetOrder) {implementing : TypeSet}
    (h : SetOf (Accepted loads p) implementing) :
    Follows loads c (expandDerived p view o implementing c).2 ∧
      Grown loads p implementing (expandDerived p view o implementing c).1 := by
  obtain ⟨hf, ha⟩ := (answers_expandDerived p o implementing).run c hc
  refine ⟨hf, ?_⟩
  rw [← ha _ (Follows.refl hf.sound)]
  exact grown_expandDerived hf.sound h

/-- A set of classes closed under properties: it has grown, by accepted classes only, to one that holds all
that properties of its members lead to, however much is asked later. -/
theorem grown_closed {c : Catalogue} (hc : Sound loads c) (o : SetOrder) {given : TypeSet}
    (h : SetOf (Accepted loads p) given) :
    Follows loads c (closeProperties p view o given c).2 ∧
      Grown loads p given (closeProperties p view o given c).1 ∧
      ∀ m ∈ (closeProperties p view o given c).1.members, ∀ d,
        Follows loads (closeProperties p view o given c).2 d → ∀ f, ShowsTo p d.reading m f →
          f.key ∈ (closeProperties p view o given c).1.keys := by
  have hregistered : ∀ t ∈ given.members, Registered loads t := fun t ht => (h.all t ht).registered
  have hperm : (given.visit o).reverse.Perm given.members :=
    (List.reverse_perm _).trans (o.perm given.members)
  have hinit := Draining.init (p := p) hc h.distinct hperm
  obtain ⟨popped, hd, hempty⟩ := exists_drains o hregistered (given.size + c.settled.length + 1) hinit (by
    rw [hc.size, List.length_nil]
    omega)
  obtain ⟨hf, hend⟩ := hinit.run hregistered hd
  obtain ⟨more, hm, hmore⟩ := hend.grown
  refine ⟨hf, ⟨⟨fun t ht => ?_, hend.nodup⟩, fun t ht => ?_⟩, fun m hm' => hend.closed m ?_⟩
  · rcases List.mem_append.mp (hm ▸ ht) with ht | ht
    · exact h.all t ht
    · exact (hmore t ht).toAccepted
  · exact hm ▸ List.mem_append_left more ht
  · have hmem := hend.members.mem_iff.mpr hm'
    rw [hempty, List.append_nil, List.nil_append] at hmem
    exact hmem

theorem built {c : Catalogue} (hc : Sound loads c) (p : Policy) (o : SetOrder)
    {entryTypes : List Descriptor} (he : ∀ t ∈ entryTypes, Known loads t) :
    Built loads p c ((build p view o entryTypes) c).1 ((build p view o entryTypes) c).2 := by
  have hentries : ∀ t ∈ (TypeSet.ofList entryTypes).visit o, Known loads t := fun t ht =>
    he t (TypeSet.mem_of_mem_ofList (TypeSet.mem_visit.mp ht))
  rw [build_run]
  obtain ⟨hf₁, h₁⟩ := setOf_direct hc p hentries
  obtain ⟨hf₂, h₂⟩ := grown_derived hf₁.sound o ⟨fun t ht => (h₁.all t ht).toAccepted, h₁.distinct⟩
  obtain ⟨hf₃, h₃, hclosed⟩ := grown_closed hf₂.sound o h₂.toSetOf
  exact ⟨hf₁.trans (hf₂.trans hf₃), fun t ht => h₃.kept t (h₂.kept t ht), h₃.toSetOf, hclosed⟩

end ModelReach.Reach
