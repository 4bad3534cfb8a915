import ModelReach.Proofs.Masking.Readings
import ModelReach.Proofs.Run.Order

/-! Ignored members are invisible. Two catalogues whose sources agree but for the types of properties and parameters
that a policy ignores lead, from entry types with the same keys, to models with the same keys and to the same
documents. -/
namespace ModelReach.Catalogue
set_option autoImplicit false

open Reach

variable {p : Policy} {loads loads' : List ModuleFacts} {d d' : Catalogue}

/-! ## One phase after the other -/

theorem exists_of_forall₂ {α β : Type} {R : α → β → Prop} {l : List α} {l' : List β} (h : List.Forall₂ R l l') :
    ∀ a ∈ l, ∃ b ∈ l', R a b := by
  induction h with
  | nil => exact fun a ha => absurd ha List.not_mem_nil
  | cons hr _ ih =>
    intro a ha
    rcases List.mem_cons.mp ha with rfl | ha
    · exact ⟨_, List.mem_cons_self .., hr⟩
    · obtain ⟨b, hb, hab⟩ := ih a ha
      exact ⟨b, List.mem_cons_of_mem _ hb, hab⟩

section Paired
variable (h : Paired p loads loads' d d')
include h

/-- Sets with the same keys have twins as members. -/
theorem Paired.exists_twin {s' : TypeSet} (hs' : ∀ t ∈ s'.members, Registered loads' t) {t : Descriptor}
    (ht : Registered loads t) (hk : t.key ∈ s'.keys) : ∃ t' ∈ s'.members, Twin p loads loads' t t' := by
  obtain ⟨t', ht', hkey⟩ := List.mem_map.mp hk
  exact ⟨t', ht', h.agree.twin_of_key h.classes' ht (hs' t' ht') hkey.symm⟩

theorem Paired.uses {t t' : Descriptor} (ht : Twin p loads loads' t t') {k : String} (hk : Uses p d.reading t k) :
    Uses p d'.reading t' k := by
  obtain ⟨m, hm, hk⟩ := hk
  obtain ⟨m', hm', hmm⟩ := exists_of_forall₂ (h.twinViews.methods ht) m hm
  refine ⟨m', hm', ?_⟩
  rw [← (h.twinViews.methodModels hmm).keys]
  exact hk

theorem Paired.derives {t t' : Descriptor} (ht : Twin p loads loads' t t') {k : String}
    (hk : Derives p d.reading t k) : Derives p d'.reading t' k := by
  obtain ⟨module, hmodule, candidate, hcandidate, ⟨hbelow, haccepts⟩, rfl⟩ := hk
  obtain ⟨candidate', hcandidate', hcc⟩ := exists_of_forall₂ (h.twinViews.moduleTypes module) candidate hcandidate
  refine ⟨module, ht.module? ▸ hmodule, candidate', hcandidate', ⟨?_, ?_⟩, hcc.key⟩
  · rw [← hbelow]
    exact (h.twinViews.isStrictSubtype hcc ht).symm
  · rw [← haccepts]
    exact (h.twinViews.accepts hcc).symm

/-- Where one of two twins leads, the other leads too; of ignored properties neither is followed. -/
theorem Paired.leadsTo {t t' : Descriptor} (ht : Twin p loads loads' t t') (hk : Known loads t)
    (hk' : Known loads' t') {found : Descriptor} (hfound : LeadsTo p d t found) :
    ∃ found', LeadsTo p d' t' found' ∧ found'.key = found.key := by
  obtain ⟨q, hq, hkept, hfound⟩ := hfound
  have hall := answers_allProperties hk
  have hall' := answers_allProperties hk'
  have hs := h.saturated.sound
  have hs' := h.saturated'.sound
  -- The properties are those that the readings show once they have been asked for.
  have hafter := (h.later (hall.run d hs).1 (hall'.run d' hs').1).twinViews.allProperties ht
  rw [hall.shown hs, hall'.shown hs'] at hafter
  obtain ⟨q', hq', hqq⟩ := exists_of_forall₂ hafter q hq
  have hcurrent : Current loads q.effectiveType := by
    rw [← hall.shown hs] at hq
    exact (current_of_mem_allProperties (hall.sound hs).resolved hq).effectiveType
  have hcurrent' : Current loads' q'.effectiveType := by
    rw [← hall'.shown hs'] at hq'
    exact (current_of_mem_allProperties (hall'.sound hs').resolved hq').effectiveType
  have hreferenced := answers_referenced p _ hcurrent
  have hreferenced' := answers_referenced p _ hcurrent'
  have hsets := (h.later (hreferenced.run d hs).1 (hreferenced'.run d' hs').1).twinViews.referenced
    (hqq.effectiveType hkept)
  rw [hreferenced.shown hs, hreferenced'.shown hs'] at hsets
  obtain ⟨found', hfound', hff⟩ := exists_of_forall₂ hsets found hfound
  exact ⟨found', ⟨q', hq', by rw [← hqq.tags, hkept], hfound'⟩, (hff.key).symm⟩

/-- Keys that are closed in one catalogue are closed in the other. -/
theorem Paired.led {keys : Set String} (hkeys : Led p d keys) : Led p d' keys := by
  intro k hk t' ht' found' hfound'
  rw [h.saturated'.sound.get?_eq] at ht'
  have hrel := h.symm.agree.get? h.classes k
  rw [show (loaded loads').get? k = some t' from ht'] at hrel
  cases hg : (loaded loads).get? k with
  | none =>
    rw [hg] at hrel
    cases hrel
  | some t =>
    rw [hg] at hrel
    cases hrel with
    | some htwin =>
      obtain ⟨found, hfound, hkey⟩ := h.symm.leadsTo htwin (registered_of_get? ht').known
        (registered_of_get? hg).known hfound'
      rw [← hkey]
      refine hkeys k hk t ?_ found hfound
      rw [h.saturated.sound.get?_eq]
      exact hg

/-! ## What builds find -/

section Found
variable {r r' : Reachability} (hr : Found loads p d r) (hr' : Found loads' p d' r')
  (he : ∀ t ∈ r.entryTypes.members, Registered loads t) (he' : ∀ t ∈ r'.entryTypes.members, Registered loads' t)
include hr hr' he he'

theorem Paired.implementing (hk : ∀ k ∈ r.entryTypes.keys, k ∈ r'.entryTypes.keys) :
    ∀ k ∈ r.implementing.keys, k ∈ r'.implementing.keys := by
  intro k hmem
  obtain ⟨entry, hentry, huses⟩ := (hr.implementing k).mp hmem
  obtain ⟨entry', hentry', htwin⟩ := h.exists_twin he' (he entry hentry) (hk _ (TypeSet.key_mem_keys hentry))
  exact (hr'.implementing k).mpr ⟨entry', hentry', h.uses htwin huses⟩

theorem Paired.derived (hk : ∀ k ∈ r.entryTypes.keys, k ∈ r'.entryTypes.keys) :
    ∀ k ∈ r.derived.keys, k ∈ r'.derived.keys := by
  intro k hmem
  have himplementing := h.implementing hr hr' he he' hk
  rcases (hr.derived k).mp hmem with hmem | ⟨model, hmodel, hderives⟩
  · exact (hr'.derived k).mpr (Or.inl (himplementing k hmem))
  · obtain ⟨model', hmodel', htwin⟩ := h.exists_twin (fun t ht => (hr'.direct.all t ht).registered)
      (hr.direct.all model hmodel).registered (himplementing _ (TypeSet.key_mem_keys hmodel))
    exact (hr'.derived k).mpr (Or.inr ⟨model', hmodel', h.derives htwin hderives⟩)

theorem Paired.keys_iff (hk : ∀ k, k ∈ r.entryTypes.keys ↔ k ∈ r'.entryTypes.keys) :
    (∀ k, k ∈ r.implementing.keys ↔ k ∈ r'.implementing.keys) ∧ ∀ k, k ∈ r.models.keys ↔ k ∈ r'.models.keys := by
  have hderived : ∀ k, k ∈ r.derived.keys ↔ k ∈ r'.derived.keys := fun k =>
    ⟨h.derived hr hr' he he' (fun k => (hk k).mp) k, h.symm.derived hr' hr he' he (fun k => (hk k).mpr) k⟩
  have hled : ∀ keys, Led p d keys ↔ Led p d' keys := fun keys => ⟨h.led, h.symm.led⟩
  have hmodels := hr.models
  simp only [hderived, hled] at hmodels
  exact ⟨fun k => ⟨h.implementing hr hr' he he' (fun k => (hk k).mp) k,
    h.symm.implementing hr' hr he' he (fun k => (hk k).mpr) k⟩, Set.ext_iff.mp (hmodels.unique hr'.models)⟩

end Found

/-- Sets of classes with the same keys have the same schemas. -/
theorem Paired.schemas {s s' : TypeSet} (hs : ∀ t ∈ s.members, Registered loads t)
    (hs' : ∀ t ∈ s'.members, Registered loads' t) (hk : ∀ k ∈ s.keys, k ∈ s'.keys) :
    ∀ e ∈ s.members.map fun t => (t.key, (generateSchema d.reading (some p) t).run),
      e ∈ s'.members.map fun t => (t.key, (generateSchema d'.reading (some p) t).run) := by
  intro e he
  obtain ⟨t, ht, rfl⟩ := List.mem_map.mp he
  obtain ⟨t', ht', htwin⟩ := h.exists_twin hs' (hs t ht) (hk _ (TypeSet.key_mem_keys ht))
  refine List.mem_map.mpr ⟨t', ht', ?_⟩
  rw [← htwin.key, ← h.twinViews.generateSchema htwin]

end Paired

end ModelReach.Catalogue

namespace ModelReach.Run
set_option autoImplicit false

open Catalogue Reach

variable {p : Policy} {loads loads' : List ModuleFacts} {c c' : Catalogue} {refs refs' : List TypeRef}

/-! ## Models and documents -/

/-- What was found and described, as a saturated catalogue shows it. -/
structure Shown (loads : List ModuleFacts) (p : Policy) (entries : List Descriptor) (d : Catalogue)
    (reached : Reachability) (schemas : List ModelSchema) : Prop where
  saturated : Saturated loads d
  found : Found loads p d reached
  entryTypes : reached.entryTypes = TypeSet.ofList entries
  schemas : ∃ o : SetOrder, (generateSchemas d.reading (some p) (reached.models.visit o)).run = schemas

theorem Describes.exists_shown {entries : List Descriptor} {reached : Reachability} {schemas : List ModelSchema}
    (h : Describes p c entries reached schemas) (hc : Univocal loads refs c)
    (he : ∀ e ∈ entries, Registered loads e) : ∃ d, Shown loads p entries d reached schemas := by
  obtain ⟨hbuild, o⟩ := h
  rename_i d
  obtain ⟨hf, hr, hfound⟩ := hbuild.found hc.inUse.sound hc.oneForKey fun e hmem => (he e hmem).known
  have hknown : ∀ m ∈ reached.models.visit o, Known loads m := fun m hm =>
    ((hfound d (Follows.refl hf.sound)).all.all m (TypeSet.mem_visit.mp hm)).registered.known
  have hanswers := answers_generateSchemas (some p) hknown
  obtain ⟨hg, hlater⟩ := hanswers.run d hf.sound
  obtain ⟨e, hend, hsaturated⟩ := hc.exists_saturated hg.sound (hr.trans (hanswers.resolves d hf.sound))
  exact ⟨e, hsaturated, hfound e (hg.trans hend), hbuild.entryTypes_eq, o, hlater e hend⟩

theorem Shown.registered {entries : List Descriptor} {d : Catalogue} {reached : Reachability}
    {schemas : List ModelSchema} (h : Shown loads p entries d reached schemas)
    (he : ∀ e ∈ entries, Registered loads e) : ∀ t ∈ reached.entryTypes.members, Registered loads t := by
  intro t ht
  rw [h.entryTypes] at ht
  exact he t (TypeSet.mem_of_mem_ofList ht)

/-- What was found and described agrees, if the catalogues that show it do. -/
theorem shown_agree {d d' : Catalogue} (hpaired : Paired p loads loads' d d')
    {entries entries' : List Descriptor} (he : ∀ e ∈ entries, Registered loads e)
    (he' : ∀ e ∈ entries', Registered loads' e)
    (hkeys : ∀ k, k ∈ entries.map Descriptor.key ↔ k ∈ entries'.map Descriptor.key) {r r' : Reachability}
    {schemas schemas' : List ModelSchema} (hd : Shown loads p entries d r schemas)
    (hd' : Shown loads' p entries' d' r' schemas') :
    (∀ k, k ∈ r.implementing.keys ↔ k ∈ r'.implementing.keys) ∧
      (∀ k, k ∈ r.models.keys ↔ k ∈ r'.models.keys) ∧ schemas = schemas' := by
  have hentries : ∀ k, k ∈ r.entryTypes.keys ↔ k ∈ r'.entryTypes.keys := fun k => by
    rw [hd.entryTypes, hd'.entryTypes, TypeSet.mem_keys_ofList, TypeSet.mem_keys_ofList, hkeys]
  obtain ⟨himplementing, hmodels⟩ :=
    hpaired.keys_iff hd.found hd'.found (hd.registered he) (hd'.registered he') hentries
  refine ⟨himplementing, hmodels, ?_⟩
  obtain ⟨o, rfl⟩ := hd.schemas
  obtain ⟨o', rfl⟩ := hd'.schemas
  have hregistered := fun t ht => (hd.found.all.all t ht).registered
  have hregistered' := fun t ht => (hd'.found.all.all t ht).registered
  refine generateSchemas_congr (some p) ?_ (nodup_visit hd.found.all.distinct o)
  -- Both lists are free of repetitions, so it is enough that they have the same members.
  have hnodup : ∀ {v : View Id} {s : TypeSet}, s.keys.Nodup →
      (s.members.map fun t => (t.key, (generateSchema v (some p) t).run)).Nodup := fun hs =>
    List.Nodup.of_map Prod.fst (by rw [List.map_map]; exact hs)
  have hperm : (r.models.members.map fun t => (t.key, (generateSchema d.reading (some p) t).run)).Perm
      (r'.models.members.map fun t => (t.key, (generateSchema d'.reading (some p) t).run)) := by
    rw [List.perm_ext_iff_of_nodup (hnodup hd.found.all.distinct) (hnodup hd'.found.all.distinct)]
    exact fun e => ⟨hpaired.schemas hregistered hregistered' (fun k => (hmodels k).mp) e,
      hpaired.symm.schemas hregistered' hregistered (fun k => (hmodels k).mpr) e⟩
  exact ((o.perm _).map _).trans (hperm.trans ((o'.perm _).map _).symm)

/-- Two catalogues in use, in each of which no key stands for two types, were made of sources that agree but for the
types of properties and parameters that the policy ignores. From entry types with the same keys each finds some models
and describes them; and in whatever orders sets are visited, the same keys are found, and the same documents
written. -/
theorem describes_agree (ha : Agree p loads loads') (hc : Univocal loads refs c) (hc' : Univocal loads' refs' c')
    {entries entries' : List Descriptor} (he : ∀ e ∈ entries, Registered loads e)
    (he' : ∀ e ∈ entries', Registered loads' e)
    (hkeys : ∀ k, k ∈ entries.map Descriptor.key ↔ k ∈ entries'.map Descriptor.key) :
    (∃ r schemas, Describes p c entries r schemas) ∧ (∃ r' schemas', Describes p c' entries' r' schemas') ∧
    ∀ r r' schemas schemas', Describes p c entries r schemas → Describes p c' entries' r' schemas' →
      (∀ k, k ∈ r.implementing.keys ↔ k ∈ r'.implementing.keys) ∧
        (∀ k, k ∈ r.models.keys ↔ k ∈ r'.models.keys) ∧
          schemas.map ModelSchema.document = schemas'.map ModelSchema.document := by
  refine ⟨⟨_, _, describes_result hc.inUse.sound p .inserted he⟩,
    ⟨_, _, describes_result hc'.inUse.sound p .inserted he'⟩, fun r r' schemas schemas' h h' => ?_⟩
  obtain ⟨d, hd⟩ := h.exists_shown hc he
  obtain ⟨d', hd'⟩ := h'.exists_shown hc' he'
  have hpaired : Paired p loads loads' d d' := ⟨ha, hc.classes, hc'.classes, hd.saturated, hd'.saturated⟩
  obtain ⟨himplementing, hmodels, hschemas⟩ := shown_agree hpaired he he' hkeys hd hd'
  exact ⟨himplementing, hmodels, congrArg (List.map ModelSchema.document) hschemas⟩

/-! ## A service with ignored types -/

/-- A class with a method whose parameter is ignored. -/
def shelteredService (parameter : Option TypeRef) : ClassFacts :=
  ⟨"S", "s", [], [], none, [], [⟨"f", [⟨"x", parameter, ["schema_ignore"]⟩], some (.named "m.A")⟩], []⟩

/-- The model that the method returns, with an ignored property. -/
def shelteredModel (hidden : TypeRef) : ClassFacts :=
  ⟨"A", "m", [], [], none, [⟨"h", hidden, false, ["schema_ignore"]⟩, ⟨"d", .named "m.D", false, []⟩], [], []⟩

def plainModel (name : String) : ClassFacts := ⟨name, "m", [], [], none, [], [], []⟩

def serviceFile (parameter : Option TypeRef) : ModuleFacts := ⟨"s", "s.py", [], [shelteredService parameter]⟩

def modelFile (hidden : TypeRef) : ModuleFacts :=
  ⟨"m", "m.py", [], [shelteredModel hidden, plainModel "D", plainModel "H"]⟩

/-- Ignored types that lead to other classes. -/
def leadingFiles : List ModuleFacts :=
  [serviceFile (some (.named "m.H")), modelFile (.array (.named "s.S") false)]

/-- Ignored types that lead nowhere, in files that are read in another order. -/
def idleFiles : List ModuleFacts := [modelFile (.named "builtins.int"), serviceFile none]

/-- What is found and described from a service. -/
def describedFrom (loads : List ModuleFacts) (service : Descriptor) : Reachability × List ModelSchema :=
  let built := build .usual view .inserted [service] (loaded loads)
  (built.1, (generateSchemas view (some .usual) (built.1.models.visit .inserted) built.2).1)

def leadingResult : Reachability × List ModelSchema :=
  describedFrom leadingFiles (.declared 0 (shelteredService (some (.named "m.H"))))

def idleResult : Reachability × List ModelSchema := describedFrom idleFiles (.declared 3 (shelteredService none))

/-- Wherever the ignored types lead, nothing but the plain members shows. -/
theorem describes_agree_sheltered :
    Agree .usual leadingFiles idleFiles ∧ Univocal leadingFiles [] (loaded leadingFiles) ∧
    Univocal idleFiles [] (loaded idleFiles) ∧ leadingResult.1.models.keys = ["m.A", "m.D"] ∧
    (∀ k, k ∈ leadingResult.1.implementing.keys ↔ k ∈ idleResult.1.implementing.keys) ∧
    (∀ k, k ∈ leadingResult.1.models.keys ↔ k ∈ idleResult.1.models.keys) ∧
    leadingResult.2.map ModelSchema.document = idleResult.2.map ModelSchema.document := by
  have hagree : Agree .usual leadingFiles idleFiles :=
    agree_of_perm (by decide +kernel) (List.Perm.swap _ _ _)
  have hunivocal : ∀ loads, ((classesIn loads).map ClassFacts.qualifiedName).Nodup →
      (∀ r ∈ written loads ++ [], r.isWellFormed = true) → Univocal loads [] (loaded loads) := fun loads hn hw =>
    univocal_of_isWellFormed (InUse.loaded (loaded loads).failures) Resolves.start
      (fun _ _ => eq_of_nodup_names hn) hw
  have hopen := hunivocal leadingFiles (by decide +kernel) (by decide +kernel)
  have hsealed := hunivocal idleFiles (by decide +kernel) (by decide +kernel)
  have hleading : ∀ e ∈ [Descriptor.declared 0 (shelteredService (some (.named "m.H")))],
      Registered leadingFiles e := fun e he => ⟨0, _, rfl, List.mem_singleton.mp he⟩
  have hidle : ∀ e ∈ [Descriptor.declared 3 (shelteredService none)], Registered idleFiles e :=
    fun e he => ⟨3, _, rfl, List.mem_singleton.mp he⟩
  obtain ⟨_, _, hagrees⟩ := describes_agree hagree hopen hsealed hleading hidle fun k => Iff.rfl
  exact ⟨hagree, hopen, hsealed, by decide +kernel,
    hagrees _ _ _ _ (describes_result (sound_loaded _) .usual .inserted hleading)
      (describes_result (sound_loaded _) .usual .inserted hidle)⟩

end ModelReach.Run
