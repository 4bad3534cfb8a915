import ModelReach.Proofs.Catalogue.Agreement
import ModelReach.Proofs.Reach.Build

/-! What each phase of a build finds, by keys, as any later catalogue shows it. In a catalogue in which no key
stands for two types this does not depend on the orders in which sets are visited. -/
namespace ModelReach.Reach
set_option autoImplicit false

open Catalogue

variable {loads : List ModuleFacts} {p : Policy} {o : SetOrder}

/-! ## Keys -/

/-- A fold that adds keys for each element adds those of all elements. -/
theorem mem_keys_foldlM {α : Type} {f : TypeSet → α → Id TypeSet} {Q : α → String → Prop}
    (h : ∀ s a k, k ∈ (f s a).run.keys ↔ k ∈ s.keys ∨ Q a k) (l : List α) (s : TypeSet) (k : String) :
    k ∈ (l.foldlM f s).run.keys ↔ k ∈ s.keys ∨ ∃ a ∈ l, Q a k := by
  induction l generalizing s with
  | nil => exact ⟨Or.inl, fun hk => hk.resolve_right fun ⟨_, ha, _⟩ => absurd ha List.not_mem_nil⟩
  | cons a l ih =>
    rw [List.foldlM_cons]
    change k ∈ (l.foldlM f (f s a).run).run.keys ↔ _
    rw [ih, h, or_assoc, List.exists_mem_cons_iff]

/-- A method of the entry type refers to a model with the key. -/
def Uses (p : Policy) (v : View Id) (entry : Descriptor) (k : String) : Prop :=
  ∃ method ∈ (v.methods entry).run, k ∈ (methodModels p v method).run.keys

/-- The module of the model declares an accepted type below it, which has the key. -/
def Derives (p : Policy) (v : View Id) (model : Descriptor) (k : String) : Prop :=
  ∃ module ∈ model.module?, ∃ candidate ∈ (v.moduleTypes module).run,
    ((v.isStrictSubtype candidate model).run = true ∧ (p.accepts v candidate).run = true) ∧ k = candidate.key

theorem mem_keys_collectDirect (v : View Id) (entries : List Descriptor) (k : String) :
    k ∈ (collectDirect p v entries).run.keys ↔ ∃ entry ∈ entries, Uses p v entry k := by
  have hmethod : ∀ (found : TypeSet) (method : Method) (k : String),
      k ∈ (addMethodModels p v found method).run.keys ↔
        k ∈ found.keys ∨ k ∈ (methodModels p v method).run.keys := by
    intro found method k
    exact TypeSet.mem_keys_insertAll
  have hentry : ∀ (found : TypeSet) (entry : Descriptor) (k : String),
      k ∈ (addEntryModels p v found entry).run.keys ↔ k ∈ found.keys ∨ Uses p v entry k :=
    fun found entry k => mem_keys_foldlM hmethod (v.methods entry).run found k
  rw [collectDirect, mem_keys_foldlM hentry]
  exact or_iff_right List.not_mem_nil

theorem mem_keys_addDerived (v : View Id) (model : Descriptor) (s : TypeSet) (candidate : Descriptor)
    (k : String) : k ∈ (addDerived p v model s candidate).run.keys ↔ k ∈ s.keys ∨
      ((v.isStrictSubtype candidate model).run = true ∧ (p.accepts v candidate).run = true) ∧
        k = candidate.key := by
  change k ∈ (Id.run (if (v.isStrictSubtype candidate model).run = true then
    if (p.accepts v candidate).run = true then pure (s.insert candidate) else pure s else pure s)).keys ↔ _
  split
  · rename_i hs
    split
    · rename_i ha
      exact TypeSet.mem_keys_insert.trans (or_congr_right (and_iff_right ⟨hs, ha⟩).symm)
    · rename_i ha
      exact (or_iff_left fun h => ha h.1.2).symm
  · rename_i hs
    exact (or_iff_left fun h => hs h.1.1).symm

theorem mem_keys_expandDerived (v : View Id) (implementing : TypeSet) (k : String) :
    k ∈ (expandDerived p v o implementing).run.keys ↔
      k ∈ implementing.keys ∨ ∃ model ∈ implementing.members, Derives p v model k := by
  have hmodel : ∀ (s : TypeSet) (model : Descriptor) (k : String),
      k ∈ (addDerivedOf p v s model).run.keys ↔ k ∈ s.keys ∨ Derives p v model k := by
    intro s model k
    unfold addDerivedOf Derives
    cases model.module? with
    | none => exact (or_iff_left fun ⟨_, h, _⟩ => nomatch h).symm
    | some module =>
      have hadd := mem_keys_foldlM (mem_keys_addDerived (p := p) v model) (v.moduleTypes module).run s k
      have hone : (∃ m ∈ some module, ∃ candidate ∈ (v.moduleTypes m).run,
          ((v.isStrictSubtype candidate model).run = true ∧ (p.accepts v candidate).run = true) ∧
            k = candidate.key) ↔ ∃ candidate ∈ (v.moduleTypes module).run,
          ((v.isStrictSubtype candidate model).run = true ∧ (p.accepts v candidate).run = true) ∧
            k = candidate.key := by
        constructor
        · rintro ⟨_, hm, h⟩
          cases hm
          exact h
        · exact fun h => ⟨module, rfl, h⟩
      rw [hone]
      exact hadd
  rw [expandDerived, mem_keys_foldlM hmodel]
  simp only [TypeSet.mem_visit]

/-! ## Builds in any order -/

/-- A build in which each set is visited in an order of its own, and in which models are followed in any order. -/
inductive Builds (p : Policy) (c : Catalogue) (entryTypes : List Descriptor) : Reachability → Catalogue → Prop
  | intro (o₁ o₂ : SetOrder) {direct derived : TypeSet × Catalogue} {d : Catalogue} {w : Worklist}
    {pending popped : List Descriptor}
    (hdirect : collectDirect p view ((TypeSet.ofList entryTypes).visit o₁) c = direct)
    (hderived : expandDerived p view o₂ direct.1 direct.2 = derived)
    (hpending : pending.Perm derived.1.members)
    (hdrains : Drains p derived.2 ⟨derived.1, pending⟩ popped d w) (hempty : w.pending = []) :
    Builds p c entryTypes ⟨TypeSet.ofList entryTypes, direct.1, derived.1, w.models⟩ d

theorem Builds.entryTypes_eq {c d : Catalogue} {entryTypes : List Descriptor} {reached : Reachability}
    (h : Builds p c entryTypes reached d) : reached.entryTypes = TypeSet.ofList entryTypes := by
  cases h
  rfl

theorem Drains.resolves {c d : Catalogue} {w w' : Worklist} {given : TypeSet} {popped more : List Descriptor}
    (h : Draining loads p given c w popped) (hg : ∀ t ∈ given.members, Registered loads t)
    (hd : Drains p c w more d w') : Resolves (written loads) c d := by
  induction hd generalizing popped with
  | stop => exact Resolves.start
  | @pop c d w w' model rest more o hp _ ih =>
    have hmodel : Known loads model := h.known hg model (h.members.mem_iff.mp
      (List.mem_append_right _ (hp.mem_iff.mpr (List.mem_cons_self ..))))
    exact ((answers_follow p o ⟨w.models, rest⟩ hmodel).resolves c h.sound).trans (ih (h.pop hg hp o).2)

theorem Draining.later {c d : Catalogue} {w : Worklist} {given : TypeSet} {popped : List Descriptor}
    (h : Draining loads p given c w popped) (hd : Follows loads c d) : Draining loads p given d w popped where
  sound := hd.sound
  nodup := h.nodup
  members := h.members
  grown := h.grown
  leads t ht e he := h.leads t ht e (hd.trans he)
  closed t ht e he := h.closed t ht e (hd.trans he)
  within e he := h.within e (hd.trans he)

/-- The keys hold, with each, all that properties of its class lead to. -/
def Led (p : Policy) (c : Catalogue) (keys : Set String) : Prop :=
  ∀ k ∈ keys, ∀ t ∈ c.get? k, ∀ found, LeadsTo p c t found → found.key ∈ keys

/-- What a build has found, as a catalogue shows it that came later. -/
structure Found (loads : List ModuleFacts) (p : Policy) (c : Catalogue) (reached : Reachability) : Prop where
  direct : SetOf (Standing loads p) reached.implementing
  all : SetOf (Accepted loads p) reached.models
  implementing : ∀ k, k ∈ reached.implementing.keys ↔ ∃ entry ∈ reached.entryTypes.members, Uses p c.reading entry k
  derived : ∀ k, k ∈ reached.derived.keys ↔
    k ∈ reached.implementing.keys ∨ ∃ model ∈ reached.implementing.members, Derives p c.reading model k
  models : IsLeast {keys | (∀ k ∈ reached.derived.keys, k ∈ keys) ∧ Led p c keys} {k | k ∈ reached.models.keys}

theorem closedKeys_iff (hone : ∀ t t', Registered loads t → Registered loads t' → t.key = t'.key → t = t')
    {c : Catalogue} (hc : Sound loads c) {given : TypeSet} (hg : ∀ t ∈ given.members, Registered loads t)
    (keys : Set String) : ClosedKeys p c given keys ↔ (∀ k ∈ given.keys, k ∈ keys) ∧ Led p c keys := by
  have hstanding : ∀ k, standing c given k = c.get? k := by
    intro k
    rw [standing]
    cases hf : given.members.find? (·.key == k) with
    | none => exact Option.none_or
    | some t =>
      have hk : t.key = k := by simpa using List.find?_some hf
      have ht := hg t (List.mem_of_find?_eq_some hf)
      obtain ⟨t', ht'⟩ := ht.exists_get?
      have he : t = t' := hone t t' ht (registered_of_get? ht') (key_of_get? ht').symm
      rw [Option.some_or, hc.get?_eq, ← hk, ht', he]
  constructor
  · intro h
    exact ⟨h.holds, fun k hk t ht => h.leads k hk t (by rw [hstanding]; exact ht)⟩
  · rintro ⟨hholds, hled⟩
    exact ⟨hholds, fun k hk t ht => hled k hk t (by rw [← hstanding]; exact ht)⟩

theorem Builds.found {c d : Catalogue} {entryTypes : List Descriptor} {reached : Reachability}
    (h : Builds p c entryTypes reached d) (hc : Sound loads c) (hone : OneForKey loads c)
    (he : ∀ t ∈ entryTypes, Known loads t) :
    Follows loads c d ∧ Resolves (written loads) c d ∧ ∀ f, Follows loads d f → Found loads p f reached := by
  obtain ⟨o₁, o₂, hdirect, hderived, hpending, hdrains, hempty⟩ := h
  rename_i direct derived w pending popped
  have hentries : ∀ t ∈ (TypeSet.ofList entryTypes).visit o₁, Known loads t := fun t ht =>
    he t (TypeSet.mem_of_mem_ofList (TypeSet.mem_visit.mp ht))
  have hanswers₁ := answers_collectDirect p hentries
  obtain ⟨hf₁, hlater₁⟩ := hanswers₁.run c hc
  have hresolves₁ := hanswers₁.resolves c hc
  have hset₁ := (setOf_direct hc p hentries).2
  rw [hdirect] at hf₁ hlater₁ hresolves₁ hset₁
  have hanswers₂ : Answers loads (expandDerived p view o₂ direct.1) _ := answers_expandDerived p o₂ direct.1
  obtain ⟨hf₂, hlater₂⟩ := hanswers₂.run direct.2 hf₁.sound
  have hresolves₂ := hanswers₂.resolves direct.2 hf₁.sound
  have hset₂ := (grown_derived hf₁.sound o₂ ⟨fun t ht => (hset₁.all t ht).toAccepted, hset₁.distinct⟩).2
  rw [hderived] at hf₂ hlater₂ hresolves₂ hset₂
  have hregistered : ∀ t ∈ derived.1.members, Registered loads t := fun t ht => (hset₂.all t ht).registered
  have hinit := Draining.init (p := p) hf₂.sound hset₂.distinct hpending
  have hresolves₃ := Drains.resolves hinit hregistered hdrains
  obtain ⟨hf₃, hend⟩ := hinit.run hregistered hdrains
  refine ⟨hf₁.trans (hf₂.trans hf₃), hresolves₁.trans (hresolves₂.trans hresolves₃), fun f hf => ?_⟩
  obtain ⟨more, hm, hmore⟩ := hend.grown
  refine
    { direct := hset₁
      all := ⟨fun t ht => ?_, hend.nodup⟩
      implementing := fun k => ?_
      derived := fun k => ?_
      models := ?_ }
  · rcases List.mem_append.mp (hm ▸ ht) with ht | ht
    · exact hset₂.all t ht
    · exact (hmore t ht).toAccepted
  · rw [← hlater₁ f (hf₂.trans (hf₃.trans hf)), mem_keys_collectDirect]
    simp only [TypeSet.mem_visit]
  · rw [← hlater₂ f (hf₃.trans hf)]
    exact mem_keys_expandDerived f.reading direct.1 k
  · have hclosed := (hend.later hf).isLeast hempty
    simp only [closedKeys_iff hone.classes hf.sound hregistered] at hclosed
    exact hclosed

/-! ## Builds of the program -/

theorem builds_build {c : Catalogue} (hc : Sound loads c) (p : Policy) (o : SetOrder)
    {entryTypes : List Descriptor} (he : ∀ t ∈ entryTypes, Known loads t) :
    Builds p c entryTypes (build p view o entryTypes c).1 (build p view o entryTypes c).2 := by
  have hentries : ∀ t ∈ (TypeSet.ofList entryTypes).visit o, Known loads t := fun t ht =>
    he t (TypeSet.mem_of_mem_ofList (TypeSet.mem_visit.mp ht))
  rw [build_run]
  dsimp only
  obtain ⟨hf₁, hset₁⟩ := setOf_direct hc p hentries
  generalize hdirect : collectDirect p view ((TypeSet.ofList entryTypes).visit o) c = direct at hf₁ hset₁ ⊢
  obtain ⟨hf₂, hset₂⟩ := grown_derived hf₁.sound o
    ⟨fun t ht => (hset₁.all t ht).toAccepted, hset₁.distinct⟩
  generalize hderived : expandDerived p view o direct.1 direct.2 = derived at hf₂ hset₂ ⊢
  have hregistered : ∀ t ∈ derived.1.members, Registered loads t := fun t ht => (hset₂.all t ht).registered
  have hperm : (derived.1.visit o).reverse.Perm derived.1.members :=
    (List.reverse_perm _).trans (o.perm derived.1.members)
  obtain ⟨popped, hd, hempty⟩ := exists_drains o hregistered (derived.1.size + derived.2.settled.length + 1)
    (Draining.init (p := p) hf₂.sound hset₂.distinct hperm) (by
      rw [hf₂.sound.size, List.length_nil]
      omega)
  exact Builds.intro o o hdirect hderived hperm hd hempty

theorem mem_pending_notes {found : List Descriptor} {w : Worklist} {t : Descriptor}
    (h : t ∈ (found.foldl Worklist.note w).pending) : t ∈ w.pending ∨ t ∈ found := by
  induction found generalizing w with
  | nil => exact Or.inl h
  | cons f found ih =>
    rcases ih h with h | h
    · unfold Worklist.note at h
      split at h
      · exact Or.inl h
      · rcases List.mem_cons.mp h with rfl | h
        · exact Or.inr (List.mem_cons_self ..)
        · exact Or.inl h
    · exact Or.inr (List.mem_cons_of_mem f h)

theorem known_of_mem_pending {c : Catalogue} (hc : Sound loads c) {w : Worklist} {model t : Descriptor}
    (hw : ∀ t ∈ w.pending, Known loads t)
    (ht : t ∈ (Worklist.follow p c.reading o w model).run.pending) : Known loads t := by
  rw [follow_run] at ht
  rcases mem_pending_notes ht with ht | ht
  · exact hw t ht
  · obtain ⟨q, hq, ht⟩ := List.mem_flatMap.mp ht
    have hcurrent := (current_of_mem_allProperties hc.resolved hq).effectiveType
    exact (standing_of_mem_referenced hc hcurrent (mem_propertyModels.mp ht).2).registered.known

theorem answers_run (p : Policy) (o : SetOrder) (rounds : Nat) {w : Worklist}
    (hw : ∀ t ∈ w.pending, Known loads t) :
    Answers loads (Worklist.run p view o rounds w) (fun c => Worklist.run p c.reading o rounds w) := by
  induction rounds generalizing w with
  | zero => exact Answers.pure w
  | succ rounds ih =>
    obtain ⟨models, pending⟩ := w
    cases pending with
    | nil => exact Answers.pure _
    | cons model rest =>
      have hrest : ∀ t ∈ (⟨models, rest⟩ : Worklist).pending, Known loads t := fun t ht =>
        hw t (List.mem_cons_of_mem model ht)
      exact (answers_follow p o ⟨models, rest⟩ (hw model (List.mem_cons_self ..))).bind fun d hd =>
        ih fun t ht => known_of_mem_pending hd hrest ht

theorem answers_closeProperties (p : Policy) (o : SetOrder) {given : TypeSet}
    (hg : ∀ t ∈ given.members, Known loads t) :
    Answers loads (closeProperties p view o given) (fun c => closeProperties p c.reading o given) := by
  have hpending : ∀ t ∈ (given.visit o).reverse, Known loads t := fun t ht =>
    hg t (TypeSet.mem_visit.mp (List.mem_reverse.mp ht))
  exact answers_classBound.bind fun _ _ => (answers_run p o _ hpending).bind fun _ _ => Answers.pure _

theorem answers_build (p : Policy) (o : SetOrder) {entryTypes : List Descriptor}
    (he : ∀ t ∈ entryTypes, Known loads t) :
    Answers loads (build p view o entryTypes) (fun c => build p c.reading o entryTypes) := by
  have hentries : ∀ t ∈ (TypeSet.ofList entryTypes).visit o, Known loads t := fun t ht =>
    he t (TypeSet.mem_of_mem_ofList (TypeSet.mem_visit.mp ht))
  refine (answers_collectDirect p hentries).bind fun d hd =>
    (answers_expandDerived p o _).bind fun e he => (answers_closeProperties p o fun t ht => ?_).bind fun _ _ =>
      Answers.pure _
  have hdirect := setOf_collectDirect (p := p) hd ((TypeSet.ofList entryTypes).visit o)
  have hgrown := grown_expandDerived (o := o) he
    ⟨fun t ht => (hdirect.all t ht).toAccepted, hdirect.distinct⟩
  exact (hgrown.all t ht).registered.known

end ModelReach.Reach
