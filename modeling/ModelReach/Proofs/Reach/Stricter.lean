import ModelReach.Proofs.Reach.Union

/-! Builds by two policies, one of which excludes more names. A stricter policy refuses more types wherever one is
asked about, also as arguments of generic types and as bases of what it has refused itself; so no phase of a build
finds more under it. -/
namespace ModelReach
set_option autoImplicit false

/-- The policies ignore alike, and the first excludes every prefix that the second one does. -/
structure Policy.Stricter (q p : Policy) : Prop where
  marker : q.ignoreMarker = p.ignoreMarker
  prefixes : p.excludedPrefixes ⊆ q.excludedPrefixes

namespace Reach

open Catalogue

variable {p q : Policy} {v : View Id}

/-! ## Types -/

theorem followsArgument_iff {t : Descriptor} : (followsArgument p v t).run = true ↔
    (p.isModel v t).run = true ∨ (v.kind t).run.isWrapper = true := by
  change (Id.run (if (p.isModel v t).run = true then pure true else pure (v.kind t).run.isWrapper)) = true ↔ _
  split
  · rename_i hm
    exact iff_of_true rfl (Or.inl hm)
  · rename_i hm
    exact (or_iff_right hm).symm

section Types
variable (h : q.Stricter p)
include h

theorem ignores_stricter (tags : List String) : q.ignores tags = p.ignores tags := by
  rw [Policy.ignores, Policy.ignores, h.marker]

theorem isExcluded_stricter (t : Descriptor) : q.isExcluded t = p.isExcluded t := by
  rw [Policy.isExcluded, Policy.isExcluded, ignores_stricter h]

theorem hasExcludedPrefix_stricter {t : Descriptor} (hp : p.hasExcludedPrefix t = true) :
    q.hasExcludedPrefix t = true := by
  obtain ⟨pre, hpre, hbegins⟩ := List.any_eq_true.mp hp
  exact List.any_eq_true.mpr ⟨pre, h.prefixes hpre, hbegins⟩

theorem isModel_stricter {t : Descriptor} (hq : (q.isModel v t).run = true) : (p.isModel v t).run = true := by
  obtain ⟨hrest, hnone⟩ := Bool.and_eq_true_iff.mp hq
  refine Bool.and_eq_true_iff.mpr ⟨hrest, ?_⟩
  rw [Bool.not_eq_true'] at hnone ⊢
  exact Bool.eq_false_iff.mpr fun hp => absurd (hasExcludedPrefix_stricter h hp) (Bool.eq_false_iff.mp hnone)

theorem accepts_stricter {t : Descriptor} (hq : (q.accepts v t).run = true) : (p.accepts v t).run = true := by
  obtain ⟨hmodel, hkept⟩ := accepts_parts hq
  rw [isExcluded_stricter h] at hkept
  rw [accepts_eq, isModel_stricter h hmodel, hkept]
  rfl

theorem followsArgument_stricter {t : Descriptor} (hq : (followsArgument q v t).run = true) :
    (followsArgument p v t).run = true := by
  rw [followsArgument_iff] at hq ⊢
  exact hq.imp (isModel_stricter h) id

end Types

/-! ## Models that a type refers to -/

theorem mem_keys_surfaceBases {t : Descriptor} {found : TypeSet} {k : String} :
    k ∈ (surfaceBases p v t found).run.keys ↔
      k ∈ found.keys ∨ ∃ base ∈ (v.bases t).run, (p.accepts v base).run = true ∧ k = base.key := by
  have hbase : ∀ (found : TypeSet) (base : Descriptor) (k : String), k ∈ (addAccepted p v found base).run.keys ↔
      k ∈ found.keys ∨ (p.accepts v base).run = true ∧ k = base.key := by
    intro found base k
    change k ∈ (Id.run (if (p.accepts v base).run = true then pure (found.insert base) else pure found)).keys ↔ _
    split
    · rename_i ha
      exact TypeSet.mem_keys_insert.trans (or_congr_right (and_iff_right ha).symm)
    · rename_i ha
      exact (or_iff_left fun h => ha h.1).symm
  exact mem_keys_foldlM hbase (v.bases t).run found k

/-- A leaf refers to itself, if it is a model, and to the accepted bases. -/
theorem mem_keys_leaf {t : Descriptor} {k : String} :
    k ∈ (Id.run (if p.isExcluded t = true then pure TypeSet.empty
      else surfaceBases p v t (if (p.isModel v t).run = true then TypeSet.empty.insert t else .empty))).keys ↔
      p.isExcluded t = false ∧ ((p.isModel v t).run = true ∧ k = t.key ∨
        ∃ base ∈ (v.bases t).run, (p.accepts v base).run = true ∧ k = base.key) := by
  split
  · rename_i hex
    exact iff_of_false List.not_mem_nil fun h => absurd hex (Bool.eq_false_iff.mp h.1)
  · rename_i hex
    rw [mem_keys_surfaceBases, and_iff_right (eq_false_of_ne_true hex)]
    refine or_congr_left ?_
    split
    · rename_i hm
      rw [TypeSet.mem_keys_insert, and_iff_right hm]
      exact or_iff_right List.not_mem_nil
    · rename_i hm
      exact iff_of_false List.not_mem_nil fun h => hm h.1

section Referenced
variable (h : q.Stricter p)
include h

theorem leaf_stricter {t : Descriptor} {k : String}
    (hk : k ∈ (Id.run (if q.isExcluded t = true then pure TypeSet.empty
      else surfaceBases q v t (if (q.isModel v t).run = true then TypeSet.empty.insert t else .empty))).keys) :
    k ∈ (Id.run (if p.isExcluded t = true then pure TypeSet.empty
      else surfaceBases p v t (if (p.isModel v t).run = true then TypeSet.empty.insert t else .empty))).keys := by
  rw [mem_keys_leaf] at hk ⊢
  rw [isExcluded_stricter h] at hk
  refine ⟨hk.1, hk.2.imp ?_ ?_⟩
  · rintro ⟨hm, hk⟩
    exact ⟨isModel_stricter h hm, hk⟩
  · rintro ⟨base, hbase, ha, hk⟩
    exact ⟨base, hbase, accepts_stricter h ha, hk⟩

mutual

theorem referenced_stricter : ∀ (t : Descriptor) {k : String},
    k ∈ (referenced q v t).run.keys → k ∈ (referenced p v t).run.keys
  | .array key element unique, k, hk => by
    rw [referenced, isExcluded_stricter h] at hk
    rw [referenced]
    split at hk
    · exact absurd hk List.not_mem_nil
    · rename_i hex
      rw [if_neg hex]
      exact referenced_stricter element hk
  | .generic key origin args, k, hk => by
    rw [referenced, isExcluded_stricter h] at hk
    rw [referenced]
    split at hk
    · exact absurd hk List.not_mem_nil
    · rename_i hex
      rw [if_neg hex]
      exact referencedArgs_stricter args (fun _ hk => hk) hk
  | .declared n facts, k, hk => by
    simp only [referenced] at hk ⊢
    exact leaf_stricter h hk
  | .leaf form, k, hk => by
    simp only [referenced] at hk ⊢
    exact leaf_stricter h hk

theorem referencedArgs_stricter : ∀ (args : List Descriptor) {found found' : TypeSet} {k : String},
    (∀ k ∈ found.keys, k ∈ found'.keys) → k ∈ (referencedArgs q v args found).run.keys →
      k ∈ (referencedArgs p v args found').run.keys
  | [], _, _, k, hf, hk => hf k hk
  | arg :: rest, found, found', k, hf, hk => by
    rw [referencedArgs] at hk ⊢
    change k ∈ (Id.run (if (followsArgument q v arg).run = true then (_ : Id TypeSet) else _)).keys at hk
    change k ∈ (Id.run (if (followsArgument p v arg).run = true then (_ : Id TypeSet) else _)).keys
    split at hk
    · rename_i hq
      rw [if_pos (followsArgument_stricter h hq)]
      refine referencedArgs_stricter rest (fun k hk => ?_) hk
      rw [TypeSet.union, TypeSet.mem_keys_insertAll] at hk ⊢
      exact hk.imp (hf k) (referenced_stricter arg)
    · split
      · refine referencedArgs_stricter rest (fun k hk => ?_) hk
        exact TypeSet.mem_keys_insertAll.mpr (Or.inl (hf k hk))
      · exact referencedArgs_stricter rest hf hk

end

end Referenced

/-! ## Phases -/

/-- The parameter refers to a model with the key, and is not ignored. -/
def ParameterUses (p : Policy) (v : View Id) (parameter : MethodParameter) (k : String) : Prop :=
  ∃ t ∈ parameter.type, p.ignores parameter.tags = false ∧ k ∈ (referenced p v t).run.keys

theorem mem_keys_methodModels {method : Method} {k : String} : k ∈ (methodModels p v method).run.keys ↔
    (∃ t ∈ method.returns, k ∈ (referenced p v t).run.keys) ∨
      ∃ parameter ∈ method.parameters, ParameterUses p v parameter k := by
  have hparameter : ∀ (found : TypeSet) (parameter : MethodParameter) (k : String),
      k ∈ (addParameterModels p v found parameter).run.keys ↔ k ∈ found.keys ∨ ParameterUses p v parameter k := by
    intro found parameter k
    obtain ⟨_, type, tags⟩ := parameter
    cases type with
    | none => exact (or_iff_left fun ⟨_, h, _⟩ => nomatch h).symm
    | some t =>
      change k ∈ (Id.run (if p.ignores tags = true then pure found else _)).keys ↔ _
      split
      · rename_i hi
        exact (or_iff_left fun ⟨_, _, hkept, _⟩ => absurd hi (Bool.eq_false_iff.mp hkept)).symm
      · rename_i hi
        refine TypeSet.mem_keys_insertAll.trans (or_congr_right ?_)
        constructor
        · exact fun hk => ⟨t, rfl, eq_false_of_ne_true hi, hk⟩
        · rintro ⟨_, ht, _, hk⟩
          cases ht
          exact hk
  obtain ⟨name, returns, parameters⟩ := method
  cases returns with
  | none =>
    refine (mem_keys_foldlM hparameter parameters .empty k).trans (or_congr_left ?_)
    exact iff_of_false List.not_mem_nil fun ⟨_, h, _⟩ => nomatch h
  | some t =>
    refine (mem_keys_foldlM hparameter parameters (referenced p v t).run k).trans (or_congr_left ?_)
    constructor
    · exact fun hk => ⟨t, rfl, hk⟩
    · rintro ⟨_, ht, hk⟩
      cases ht
      exact hk

section Phases
variable (h : q.Stricter p)
include h

theorem uses_stricter {entry : Descriptor} {k : String} (hu : Uses q v entry k) : Uses p v entry k := by
  obtain ⟨method, hmethod, hk⟩ := hu
  refine ⟨method, hmethod, ?_⟩
  rw [mem_keys_methodModels] at hk ⊢
  refine hk.imp ?_ ?_
  · rintro ⟨t, ht, hk⟩
    exact ⟨t, ht, referenced_stricter h t hk⟩
  · rintro ⟨parameter, hparameter, t, ht, hi, hk⟩
    exact ⟨parameter, hparameter, t, ht, by rw [← ignores_stricter h, hi], referenced_stricter h t hk⟩

theorem derives_stricter {model : Descriptor} {k : String} (hd : Derives q v model k) : Derives p v model k := by
  obtain ⟨module, hmodule, candidate, hcandidate, ⟨hbelow, ha⟩, hk⟩ := hd
  exact ⟨module, hmodule, candidate, hcandidate, ⟨hbelow, accepts_stricter h ha⟩, hk⟩

variable {loads : List ModuleFacts} {c : Catalogue} (hc : Sound loads c) (hone : OneForKey loads c)
include hc hone

/-- Both policies are asked about a type one after the other, in either order: the answers can be compared in a
catalogue that is later than both. -/
theorem referenced_view_stricter {t : Descriptor} (ht : Current loads t) {k : String}
    (hk : k ∈ (referenced q view t c).1.keys) : k ∈ (referenced p view t c).1.keys := by
  have hq := answers_referenced q t ht
  have hp := answers_referenced p t ht
  obtain ⟨d, hqd, hpd⟩ := hone.exists_later (hq.sound hc) (hq.resolves c hc) (hp.sound hc) (hp.resolves c hc)
  rw [← (hq.run c hc).2 d hqd] at hk
  rw [← (hp.run c hc).2 d hpd]
  exact referenced_stricter h t hk

theorem leadsTo_stricter {t f : Descriptor} (ht : Known loads t) (hl : LeadsTo q c t f) :
    ∃ f', LeadsTo p c t f' ∧ f'.key = f.key := by
  obtain ⟨property, hproperty, hi, hf⟩ := hl
  have hanswers := answers_allProperties ht
  have hcurrent : Current loads property.effectiveType := by
    rw [← hanswers.shown hc] at hproperty
    exact (current_of_mem_allProperties (hanswers.sound hc).resolved hproperty).effectiveType
  have hk := referenced_view_stricter h hc hone hcurrent (TypeSet.key_mem_keys hf)
  obtain ⟨f', hf', hk⟩ := List.mem_map.mp hk
  exact ⟨f', ⟨property, hproperty, by rw [← ignores_stricter h, hi], hf'⟩, hk⟩

/-- Keys that are closed under what properties lead to stay so under the stricter policy. -/
theorem led_stricter {keys : Set String} (hl : Led p c keys) : Led q c keys := by
  intro k hk t ht f hf
  have hknown : Known loads t := (registered_of_get? (by rw [← hc.get?_eq]; exact ht)).known
  obtain ⟨f', hf', hkey⟩ := leadsTo_stricter h hc hone hknown hf
  exact hkey ▸ hl k hk t ht f' hf'

/-- The keys found are found by the other build as well. -/
theorem Found.within {r r' : Reachability} (hr : Found loads q c r) (hr' : Found loads p c r')
    (he : r.entryTypes = r'.entryTypes) : (∀ k ∈ r.implementing.keys, k ∈ r'.implementing.keys) ∧
      ∀ k ∈ r.models.keys, k ∈ r'.models.keys := by
  have himplementing : ∀ k ∈ r.implementing.keys, k ∈ r'.implementing.keys := by
    intro k hk
    obtain ⟨entry, hentry, hu⟩ := (hr.implementing k).mp hk
    exact (hr'.implementing k).mpr ⟨entry, he ▸ hentry, uses_stricter h hu⟩
  have hderived : ∀ k ∈ r.derived.keys, k ∈ r'.derived.keys := by
    intro k hk
    refine (hr'.derived k).mpr (((hr.derived k).mp hk).imp (himplementing k) fun hd => ?_)
    obtain ⟨model, hmodel, m, hget, hd⟩ := (exists_member_iff hr.direct (Derives q c.reading · k)).mp hd
    exact (exists_member_iff hr'.direct (Derives p c.reading · k)).mpr
      ⟨model, himplementing model hmodel, m, hget, derives_stricter h hd⟩
  refine ⟨himplementing, fun k hk => ?_⟩
  have hleast := hr.models.2 ⟨fun k hk => hr'.models.1.1 k (hderived k hk), led_stricter h hc hone hr'.models.1.2⟩
  exact hleast hk

end Phases

/-! ## Builds -/

/-- In a catalogue in use in which no key stands for two types, a build by a stricter policy finds no more: neither
more models that methods refer to, nor more models in the end. -/
theorem build_stricter {loads : List ModuleFacts} {c : Catalogue} (hc : InUse loads c) (hone : OneForKey loads c)
    (h : q.Stricter p) (o o' : SetOrder) {E : List Descriptor} (hE : ∀ t ∈ E, Known loads t) :
    (build q view o E c).1.implementing.keys ⊆ (build p view o' E c).1.implementing.keys ∧
    (build q view o E c).1.models.keys ⊆ (build p view o' E c).1.models.keys := by
  obtain ⟨hf, hr, hfound⟩ := (builds_build hc.sound p o' hE).found hc.sound hone hE
  have hafter := hone.later hr
  obtain ⟨hf', hr', hfound'⟩ := (builds_build hf.sound q o hE).found hf.sound hafter hE
  have hwithin := (hfound' _ (Follows.refl hf'.sound)).within h hf'.sound (hafter.later hr') (hfound _ hf') rfl
  rw [hone.answer_eq hf.sound hr hc.sound Resolves.start (answers_build q o hE)] at hwithin
  exact ⟨hwithin.1, hwithin.2⟩

/-- The usual policy, made to exclude names that begin with `m.B` too. -/
def withoutB : Policy := { Policy.usual with excludedPrefixes := "m.B" :: defaultExcludedPrefixes }

def servicesOfOffices : List Descriptor := [.declared 0 (serving "S" "A"), .declared 1 (serving "T" "B")]

theorem build_stricter_offices :
    (build withoutB view .inserted servicesOfOffices (loaded offices)).1.models.keys = ["m.A"] ∧
    (build .usual view .inserted servicesOfOffices (loaded offices)).1.models.keys = ["m.A", "m.B"] ∧
    (build withoutB view .inserted servicesOfOffices (loaded offices)).1.implementing.keys ⊆
      (build .usual view .inserted servicesOfOffices (loaded offices)).1.implementing.keys ∧
    (build withoutB view .inserted servicesOfOffices (loaded offices)).1.models.keys ⊆
      (build .usual view .inserted servicesOfOffices (loaded offices)).1.models.keys := by
  have hc : InUse offices (loaded offices) := InUse.loaded (loaded offices).failures
  have hknown : ∀ t ∈ servicesOfOffices, Known offices t := by
    intro t ht
    rcases List.mem_cons.mp ht with rfl | ht
    · exact Registered.known ⟨0, serving "S" "A", rfl, rfl⟩
    · rw [List.mem_singleton.mp ht]
      exact Registered.known ⟨1, serving "T" "B", rfl, rfl⟩
  have hstricter : withoutB.Stricter .usual := ⟨rfl, List.subset_cons_self ..⟩
  refine ⟨by decide, by decide, ?_⟩
  exact build_stricter hc (unambiguous_offices.oneForKey rfl) hstricter .inserted .inserted hknown

end Reach
end ModelReach
