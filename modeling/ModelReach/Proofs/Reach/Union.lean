import ModelReach.Proofs.Reach.Phases

/-! Builds from several sets of entry types. Each phase of a build from a union finds what it finds from one set or
the other, so that builds made service by service come to the same as one build. -/
namespace ModelReach.Reach
set_option autoImplicit false

open Catalogue

variable {loads : List ModuleFacts} {p : Policy}

/-! ## Unions of closed sets -/

/-- If the union of two closed sets is closed, the least closed set above a union is the union of the least ones. -/
theorem isLeast_union {α : Type} {C : Set α → Prop} (hC : ∀ a b, C a → C b → C (a ∪ b))
    (S S₁ S₂ : Set α) {M M₁ M₂ : Set α} (hS : ∀ k, k ∈ S ↔ k ∈ S₁ ∨ k ∈ S₂)
    (h : IsLeast {keys | (∀ k ∈ S, k ∈ keys) ∧ C keys} M)
    (h₁ : IsLeast {keys | (∀ k ∈ S₁, k ∈ keys) ∧ C keys} M₁)
    (h₂ : IsLeast {keys | (∀ k ∈ S₂, k ∈ keys) ∧ C keys} M₂) : M = M₁ ∪ M₂ := by
  apply Set.Subset.antisymm
  · refine h.2 ⟨fun k hk => ?_, hC M₁ M₂ h₁.1.2 h₂.1.2⟩
    exact ((hS k).mp hk).imp (h₁.1.1 k) (h₂.1.1 k)
  · refine Set.union_subset (h₁.2 ⟨fun k hk => ?_, h.1.2⟩) (h₂.2 ⟨fun k hk => ?_, h.1.2⟩)
    · exact h.1.1 k ((hS k).mpr (Or.inl hk))
    · exact h.1.1 k ((hS k).mpr (Or.inr hk))

theorem led_union {c : Catalogue} (a b : Set String) (ha : Led p c a) (hb : Led p c b) : Led p c (a ∪ b) := by
  intro k hk t ht found hl
  exact hk.imp (fun hk => ha k hk t ht found hl) fun hk => hb k hk t ht found hl

/-! ## One catalogue -/

/-- Members that stand under their keys are known by the keys. -/
theorem exists_member_iff {s : TypeSet} (h : SetOf (Standing loads p) s) (P : Descriptor → Prop) :
    (∃ m ∈ s.members, P m) ↔ ∃ k ∈ s.keys, ∃ m ∈ (loaded loads).get? k, P m := by
  constructor
  · rintro ⟨m, hm, hp⟩
    exact ⟨m.key, TypeSet.key_mem_keys hm, m, (h.all m hm).stands, hp⟩
  · rintro ⟨k, hk, m, hget, hp⟩
    obtain ⟨m', hm', rfl⟩ := List.mem_map.mp hk
    rw [Option.mem_def, (h.all m' hm').stands, Option.some_inj] at hget
    exact ⟨m', hm', hget ▸ hp⟩

/-- The members of a set with the keys of two others are theirs. -/
theorem exists_member_union {s s₁ s₂ : TypeSet} (h : SetOf (Standing loads p) s)
    (h₁ : SetOf (Standing loads p) s₁) (h₂ : SetOf (Standing loads p) s₂)
    (hk : ∀ k, k ∈ s.keys ↔ k ∈ s₁.keys ∨ k ∈ s₂.keys) (P : Descriptor → Prop) :
    (∃ m ∈ s.members, P m) ↔ (∃ m ∈ s₁.members, P m) ∨ ∃ m ∈ s₂.members, P m := by
  rw [exists_member_iff h, exists_member_iff h₁, exists_member_iff h₂]
  simp only [hk, or_and_right, exists_or]

/-- The keys found are those found by one build or the other. -/
structure UnionOf (r r₁ r₂ : Reachability) : Prop where
  implementing : ∀ k, k ∈ r.implementing.keys ↔ k ∈ r₁.implementing.keys ∨ k ∈ r₂.implementing.keys
  derived : ∀ k, k ∈ r.derived.keys ↔ k ∈ r₁.derived.keys ∨ k ∈ r₂.derived.keys
  models : ∀ k, k ∈ r.models.keys ↔ k ∈ r₁.models.keys ∨ k ∈ r₂.models.keys

theorem Found.union {c : Catalogue} {r r₁ r₂ : Reachability} (h : Found loads p c r) (h₁ : Found loads p c r₁)
    (h₂ : Found loads p c r₂) (he : ∀ t, t ∈ r.entryTypes.members ↔
      t ∈ r₁.entryTypes.members ∨ t ∈ r₂.entryTypes.members) : UnionOf r r₁ r₂ := by
  have himplementing : ∀ k, k ∈ r.implementing.keys ↔ k ∈ r₁.implementing.keys ∨ k ∈ r₂.implementing.keys := by
    intro k
    rw [h.implementing, h₁.implementing, h₂.implementing]
    simp only [he, or_and_right, exists_or]
  have hderived : ∀ k, k ∈ r.derived.keys ↔ k ∈ r₁.derived.keys ∨ k ∈ r₂.derived.keys := by
    intro k
    rw [h.derived, h₁.derived, h₂.derived, himplementing,
      exists_member_union h.direct h₁.direct h₂.direct himplementing]
    exact or_or_or_comm ..
  have hmodels := isLeast_union led_union {k | k ∈ r.derived.keys} {k | k ∈ r₁.derived.keys}
    {k | k ∈ r₂.derived.keys} hderived h.models h₁.models h₂.models
  exact ⟨himplementing, hderived, fun k => Set.ext_iff.mp hmodels k⟩

/-- What two builds from the same entry types have found is the same, by keys. -/
theorem Found.keys_eq {c : Catalogue} {r r' : Reachability} (h : Found loads p c r) (h' : Found loads p c r')
    (he : r.entryTypes = r'.entryTypes) : (∀ k, k ∈ r.implementing.keys ↔ k ∈ r'.implementing.keys) ∧
      ∀ k, k ∈ r.models.keys ↔ k ∈ r'.models.keys := by
  have hunion := h.union h' h' fun t => by rw [he, or_self]
  exact ⟨fun k => (hunion.implementing k).trans or_self_iff, fun k => (hunion.models k).trans or_self_iff⟩

/-! ## Builds -/

theorem mem_ofList {ds : List Descriptor}
    (hone : ∀ t t', Registered loads t → Registered loads t' → t.key = t'.key → t = t')
    (hds : ∀ t ∈ ds, Registered loads t) (t : Descriptor) : t ∈ (TypeSet.ofList ds).members ↔ t ∈ ds := by
  constructor
  · exact TypeSet.mem_of_mem_ofList
  · intro ht
    obtain ⟨t', ht', hk⟩ := List.mem_map.mp (TypeSet.mem_keys_ofList.mpr (List.mem_map_of_mem ht))
    rw [← hone t' t (hds t' (TypeSet.mem_of_mem_ofList ht')) (hds t ht) hk]
    exact ht'

section Builds
variable {a : Catalogue} (ha : Sound loads a) (hone : OneForKey loads a)
include ha hone

/-- Builds made one after the other, or each on its own, are all seen alike by the catalogue that is left in the
end. -/
theorem unionOf_builds (o o₁ o₂ : SetOrder) {E E₁ E₂ : List Descriptor} (h₁ : ∀ t ∈ E₁, Registered loads t)
    (h₂ : ∀ t ∈ E₂, Registered loads t) (hE : ∀ t, t ∈ E ↔ t ∈ E₁ ∨ t ∈ E₂) :
    UnionOf (build p view o E a).1 (build p view o₁ E₁ a).1 (build p view o₂ E₂ a).1 := by
  have h : ∀ t ∈ E, Registered loads t := fun t ht => ((hE t).mp ht).elim (h₁ t) (h₂ t)
  have hk₁ : ∀ t ∈ E₁, Known loads t := fun t ht => (h₁ t ht).known
  have hk₂ : ∀ t ∈ E₂, Known loads t := fun t ht => (h₂ t ht).known
  have hk : ∀ t ∈ E, Known loads t := fun t ht => (h t ht).known
  obtain ⟨hf₁, hr₁, hfound₁⟩ := (builds_build ha p o₁ hk₁).found ha hone hk₁
  obtain ⟨hf₂, hr₂, hfound₂⟩ := (builds_build hf₁.sound p o₂ hk₂).found hf₁.sound (hone.later hr₁) hk₂
  have hr₁₂ := hr₁.trans hr₂
  obtain ⟨hf₃, _, hfound⟩ := (builds_build hf₂.sound p o hk).found hf₂.sound (hone.later hr₁₂) hk
  have hlast := Follows.refl hf₃.sound
  have hunion := (hfound _ hlast).union (hfound₁ _ (hf₂.trans hf₃)) (hfound₂ _ hf₃) fun t => by
    rw [build_run, build_run, build_run, mem_ofList hone.classes h, mem_ofList hone.classes h₁,
      mem_ofList hone.classes h₂]
    exact hE t
  rw [hone.answer_eq hf₁.sound hr₁ ha Resolves.start (answers_build p o₂ hk₂),
    hone.answer_eq hf₂.sound hr₁₂ ha Resolves.start (answers_build p o hk)] at hunion
  exact hunion

theorem build_nil (p : Policy) (o : SetOrder) (k : String) :
    k ∉ (build p view o [] a).1.implementing.keys ∧ k ∉ (build p view o [] a).1.models.keys := by
  have hk : ∀ t ∈ ([] : List Descriptor), Known loads t := fun _ ht => absurd ht List.not_mem_nil
  obtain ⟨hf, _, hfound⟩ := (builds_build ha p o hk).found ha hone hk
  have h := hfound _ (Follows.refl hf.sound)
  have himplementing : ∀ k, k ∉ (build p view o [] a).1.implementing.keys := by
    intro k hk
    obtain ⟨_, ht, _⟩ := (h.implementing k).mp hk
    exact absurd ht List.not_mem_nil
  have hderived : ∀ k, k ∉ (build p view o [] a).1.derived.keys := by
    intro k hk
    rcases (h.derived k).mp hk with hk | ⟨m, hm, _⟩
    · exact himplementing k hk
    · exact himplementing m.key (TypeSet.key_mem_keys hm)
  have hmodels : {k | k ∈ (build p view o [] a).1.models.keys} ⊆ (∅ : Set String) :=
    h.models.2 ⟨fun k hk => absurd hk (hderived k), fun _ hk => absurd hk (Set.notMem_empty _)⟩
  exact ⟨himplementing k, fun hk => hmodels hk⟩

theorem build_services {o o' : SetOrder} {services : List (List Descriptor)} {E : List Descriptor}
    (hs : ∀ s ∈ services, ∀ t ∈ s, Registered loads t) (hE : ∀ t, t ∈ E ↔ ∃ s ∈ services, t ∈ s) (k : String) :
    (k ∈ (build p view o E a).1.implementing.keys ↔
      ∃ s ∈ services, k ∈ (build p view o' s a).1.implementing.keys) ∧
    (k ∈ (build p view o E a).1.models.keys ↔ ∃ s ∈ services, k ∈ (build p view o' s a).1.models.keys) := by
  induction services generalizing E o with
  | nil =>
    have hnil : E = [] := List.eq_nil_iff_forall_not_mem.mpr fun t ht => by
      obtain ⟨_, hs, _⟩ := (hE t).mp ht
      exact absurd hs List.not_mem_nil
    obtain ⟨himplementing, hmodels⟩ := build_nil ha hone p o k
    rw [hnil]
    exact ⟨iff_of_false himplementing fun ⟨_, hs, _⟩ => absurd hs List.not_mem_nil,
      iff_of_false hmodels fun ⟨_, hs, _⟩ => absurd hs List.not_mem_nil⟩
  | cons s services ih =>
    have hrest : ∀ s ∈ services, ∀ t ∈ s, Registered loads t := fun s' h => hs s' (List.mem_cons_of_mem s h)
    have hflatten : ∀ t, t ∈ services.flatten ↔ ∃ s ∈ services, t ∈ s := fun t => List.mem_flatten
    have hunion := unionOf_builds (p := p) ha hone o o' o'
      (hs s (List.mem_cons_self ..)) (fun t ht => by
        obtain ⟨s', hs', ht⟩ := (hflatten t).mp ht
        exact hrest s' hs' t ht) fun t => by
        rw [hE, hflatten, List.exists_mem_cons_iff]
    rw [hunion.implementing, hunion.models, (ih hrest hflatten).1, (ih hrest hflatten).2,
      List.exists_mem_cons_iff, List.exists_mem_cons_iff]
    exact ⟨Iff.rfl, Iff.rfl⟩

theorem mapM_build (p : Policy) (o : SetOrder) {services : List (List Descriptor)}
    (hs : ∀ s ∈ services, ∀ t ∈ s, Registered loads t) {c : Catalogue} (hc : Sound loads c)
    (hr : Resolves (written loads) a c) :
    (services.mapM (build p view o) c).1 = services.map fun s => (build p view o s a).1 := by
  induction services generalizing c with
  | nil => rfl
  | cons s services ih =>
    have hanswers := answers_build p o fun t ht => (hs s (List.mem_cons_self ..) t ht).known
    have hrest := ih (fun s' h => hs s' (List.mem_cons_of_mem s h)) (hanswers.sound hc)
      (hr.trans (hanswers.resolves c hc))
    rw [List.mapM_cons, List.map_cons, ← hone.answer_eq hc hr ha Resolves.start hanswers, ← hrest]
    rfl

end Builds

/-- In a catalogue in use in which no key stands for two types, a build from the union of two sets of classes finds
the keys that builds from one or the other find; builds made one after the other, for any number of services, find
together what one build from all their classes finds. -/
theorem build_union {c : Catalogue} (hc : InUse loads c) (hone : OneForKey loads c) (p : Policy)
    (o o₁ o₂ : SetOrder) {E E₁ E₂ : List Descriptor} (h₁ : ∀ t ∈ E₁, Registered loads t)
    (h₂ : ∀ t ∈ E₂, Registered loads t) (hE : ∀ t, t ∈ E ↔ t ∈ E₁ ∨ t ∈ E₂) :
    (∀ k, k ∈ (build p view o E c).1.implementing.keys ↔
      k ∈ (build p view o₁ E₁ c).1.implementing.keys ∨ k ∈ (build p view o₂ E₂ c).1.implementing.keys) ∧
    (∀ k, k ∈ (build p view o E c).1.models.keys ↔
      k ∈ (build p view o₁ E₁ c).1.models.keys ∨ k ∈ (build p view o₂ E₂ c).1.models.keys) ∧
    ∀ services : List (List Descriptor), (∀ t, t ∈ E ↔ ∃ s ∈ services, t ∈ s) → ∀ k,
      (k ∈ (build p view o E c).1.implementing.keys ↔
        ∃ r ∈ (services.mapM (build p view o₁) c).1, k ∈ r.implementing.keys) ∧
      (k ∈ (build p view o E c).1.models.keys ↔
        ∃ r ∈ (services.mapM (build p view o₁) c).1, k ∈ r.models.keys) := by
  have hunion := unionOf_builds (p := p) hc.sound hone o o₁ o₂ h₁ h₂ hE
  refine ⟨hunion.implementing, hunion.models, fun services hs k => ?_⟩
  have hregistered : ∀ s ∈ services, ∀ t ∈ s, Registered loads t := fun s hs' t ht =>
    ((hE t).mp ((hs t).mpr ⟨s, hs', ht⟩)).elim (h₁ t) (h₂ t)
  rw [mapM_build hc.sound hone p o₁ hregistered hc.sound Resolves.start]
  simp only [List.mem_map, exists_exists_and_eq_and]
  exact build_services hc.sound hone hregistered hs k

/-- A class with a method that returns a model. -/
def serving (name model : String) : ClassFacts :=
  ⟨name, "m", [], [], none, [], [⟨"f", [], some (.named ("m." ++ model))⟩], []⟩

/-- A module of two services, each with a model of its own, of which one refers to the other. -/
def offices : List ModuleFacts :=
  [⟨"m", "m.py", [], [serving "S" "A", serving "T" "B", linked "A" "B", linked "B" "B"]⟩]

theorem unambiguous_offices : Unambiguous offices where
  classes := by decide
  refs := by
    have hparts : TypeRef.partsOf (written offices) =
        [.named "m.A", .named "m.B", .named "m.B", .named "m.B"] := rfl
    rw [hparts]
    simp [TypeRef.key]

theorem build_union_offices :
    (build .usual view .inserted [.declared 0 (serving "S" "A"), .declared 1 (serving "T" "B")]
      (loaded offices)).1.models.keys = ["m.A", "m.B"] ∧
    (∀ k, k ∈ ["m.A", "m.B"] ↔
      k ∈ (build .usual view .inserted [.declared 0 (serving "S" "A")] (loaded offices)).1.models.keys ∨
      k ∈ (build .usual view .inserted [.declared 1 (serving "T" "B")] (loaded offices)).1.models.keys) := by
  have hkeys : (build .usual view .inserted [.declared 0 (serving "S" "A"), .declared 1 (serving "T" "B")]
      (loaded offices)).1.models.keys = ["m.A", "m.B"] := by decide +kernel
  have hs : ∀ t ∈ [Descriptor.declared 0 (serving "S" "A")], Registered offices t := by
    intro t ht
    rw [List.mem_singleton.mp ht]
    exact ⟨0, serving "S" "A", rfl, rfl⟩
  have ht : ∀ t ∈ [Descriptor.declared 1 (serving "T" "B")], Registered offices t := by
    intro t ht
    rw [List.mem_singleton.mp ht]
    exact ⟨1, serving "T" "B", rfl, rfl⟩
  have hboth : ∀ t, t ∈ [Descriptor.declared 0 (serving "S" "A"), .declared 1 (serving "T" "B")] ↔
      t ∈ [Descriptor.declared 0 (serving "S" "A")] ∨ t ∈ [Descriptor.declared 1 (serving "T" "B")] := fun t => by
    rw [List.mem_cons, List.mem_singleton, List.mem_singleton]
  have hunion := (build_union (InUse.loaded (loaded offices).failures) (unambiguous_offices.oneForKey rfl) .usual
    .inserted .inserted .inserted hs ht hboth).2.1
  rw [← hkeys]
  exact ⟨rfl, hunion⟩

end ModelReach.Reach
