import ModelReach.Proofs.Reach.Union
import ModelReach.Proofs.Run.Entries
import ModelReach.Proofs.Run.Result

/-! The orders in which a run visits sets. Of two classes with one key, the one that is met first stays, so that a
class declared twice can make what is found depend on the order. Where sources are unambiguous nothing does. -/
namespace ModelReach.Run
set_option autoImplicit false

open Catalogue
open Files (FileTree ModuleFile)

variable {loads : List ModuleFacts} {t : FileTree} {p : Policy}

/-! ## Schemas in any order -/

/-- Two views describe models alike if they give, in some order, the same schemas under the same keys. -/
theorem generateSchemas_congr {v v' : View Id} (policy : Option Policy) {models models' : List Descriptor}
    (h : (models.map fun t => (t.key, (generateSchema v policy t).run)).Perm
      (models'.map fun t => (t.key, (generateSchema v' policy t).run)))
    (hn : (models.map Descriptor.key).Nodup) :
    (generateSchemas v policy models).run = (generateSchemas v' policy models').run := by
  have hkeys : ∀ (u : View Id) (l : List Descriptor),
      (l.map fun t => (t.key, (generateSchema u policy t).run)).map Prod.fst = l.map Descriptor.key :=
    fun u l => List.map_map
  have hfirst := hn
  rw [← hkeys v] at hfirst
  have hn' : (models'.map Descriptor.key).Nodup := by
    rw [← hkeys v']
    exact (h.map Prod.fst).nodup_iff.mp hfirst
  rw [generateSchemas_run v policy hn, generateSchemas_run v' policy hn']
  have hsorted := pairwise_sorted (Prod.fst (α := String) (β := ModelSchema))
  congr 1
  refine List.Perm.eq_of_pairwise (fun a b ha hb hab hba => ?_) (hsorted _) (hsorted _)
    ((List.mergeSort_perm _ _).trans (h.trans (List.mergeSort_perm _ _).symm))
  exact List.inj_on_of_nodup_map hfirst ((List.mergeSort_perm _ _).mem_iff.mp ha)
    (h.mem_iff.mpr ((List.mergeSort_perm _ _).mem_iff.mp hb)) (le_antisymm hab hba)

theorem generateSchemas_perm (v : View Id) (policy : Option Policy) {models models' : List Descriptor}
    (h : models.Perm models') (hn : (models.map Descriptor.key).Nodup) :
    (generateSchemas v policy models).run = (generateSchemas v policy models').run :=
  generateSchemas_congr policy (h.map _) hn

/-- Sets of classes with the same keys have the same members, if no key has two classes. -/
theorem members_perm (hone : ∀ t t', Registered loads t → Registered loads t' → t.key = t'.key → t = t')
    {s s' : TypeSet} (hs : Reach.SetOf (Reach.Accepted loads p) s) (hs' : Reach.SetOf (Reach.Accepted loads p) s')
    (hk : ∀ k, k ∈ s.keys ↔ k ∈ s'.keys) : s.members.Perm s'.members := by
  have hsub : ∀ {a b : TypeSet}, Reach.SetOf (Reach.Accepted loads p) a → Reach.SetOf (Reach.Accepted loads p) b →
      (∀ k ∈ a.keys, k ∈ b.keys) → ∀ m ∈ a.members, m ∈ b.members := by
    intro a b ha hb hkeys m hm
    obtain ⟨m', hm', hkey⟩ := List.mem_map.mp (hkeys m.key (TypeSet.key_mem_keys hm))
    rw [← hone m' m (hb.all m' hm').registered (ha.all m hm).registered hkey]
    exact hm'
  rw [List.perm_ext_iff_of_nodup (List.Nodup.of_map _ hs.distinct) (List.Nodup.of_map _ hs'.distinct)]
  exact fun m => ⟨hsub hs hs' (fun k => (hk k).mp) m, hsub hs' hs (fun k => (hk k).mpr) m⟩

/-! ## Runs in any order -/

/-- Models are found and described, and each visit of a set on the way has an order of its own. -/
inductive Describes (p : Policy) (c : Catalogue) (entries : List Descriptor) :
    Reach.Reachability → List ModelSchema → Prop
  | intro {reached : Reach.Reachability} {d : Catalogue} (h : Reach.Builds p c entries reached d) (o : SetOrder) :
    Describes p c entries reached (generateSchemas view (some p) (reached.models.visit o) d).1

/-- What is found and described from the same entry types is the same. -/
theorem describes_unique {c : Catalogue} (hc : Sound loads c) (hone : OneForKey loads c)
    {entries : List Descriptor} (he : ∀ e ∈ entries, Registered loads e) {r r' : Reach.Reachability}
    {schemas schemas' : List ModelSchema} (h : Describes p c entries r schemas)
    (h' : Describes p c entries r' schemas') :
    sortedNames r.implementing = sortedNames r'.implementing ∧ sortedNames r.models = sortedNames r'.models ∧
      schemas = schemas' := by
  have hk : ∀ e ∈ entries, Known loads e := fun e hmem => (he e hmem).known
  obtain ⟨hbuild, o⟩ := h
  obtain ⟨hbuild', o'⟩ := h'
  rename_i d d'
  obtain ⟨hf, hr, hfound⟩ := hbuild.found hc hone hk
  obtain ⟨hf', hr', hfound'⟩ := hbuild'.found hc hone hk
  have hall := (hfound d (Follows.refl hf.sound)).all
  have hall' := (hfound' d' (Follows.refl hf'.sound)).all
  have hknown : ∀ m ∈ r.models.visit o, Known loads m := fun m hm =>
    (hall.all m (TypeSet.mem_visit.mp hm)).registered.known
  have hknown' : ∀ m ∈ r'.models.visit o', Known loads m := fun m hm =>
    (hall'.all m (TypeSet.mem_visit.mp hm)).registered.known
  have hanswers := answers_generateSchemas (some p) hknown
  have hanswers' := answers_generateSchemas (some p) hknown'
  obtain ⟨hg, hlater⟩ := hanswers.run d hf.sound
  obtain ⟨hg', hlater'⟩ := hanswers'.run d' hf'.sound
  -- Both runs are compared in a catalogue that comes after either.
  obtain ⟨f, hend, hend'⟩ := hone.exists_later hg.sound (hr.trans (hanswers.resolves d hf.sound)) hg'.sound
    (hr'.trans (hanswers'.resolves d' hf'.sound))
  have hat := hfound f (hg.trans hend)
  have hat' := hfound' f (hg'.trans hend')
  obtain ⟨himplementing, hmodels⟩ := hat.keys_eq hat' (hbuild.entryTypes_eq.trans hbuild'.entryTypes_eq.symm)
  have hdirect : ∀ {s : TypeSet}, Reach.SetOf (Reach.Standing loads p) s → Reach.SetOf (Reach.Accepted loads p) s :=
    fun hs => ⟨fun t ht => (hs.all t ht).toAccepted, hs.distinct⟩
  have hperm := members_perm hone.classes (hdirect hat.direct) (hdirect hat'.direct) himplementing
  have hperm' := members_perm hone.classes hall hall' hmodels
  refine ⟨sortStrings_congr (hperm.map _), sortStrings_congr (hperm'.map _), ?_⟩
  rw [← hlater f hend, ← hlater' f hend']
  exact generateSchemas_perm f.reading (some p)
    ((o.perm _).trans (hperm'.trans (o'.perm _).symm)) (nodup_visit hall.distinct o)

/-! ## Files -/

theorem Enumerated.sublist {file : ModuleFile} {classes : List Descriptor} {more : List ModuleFacts}
    (h : Enumerated t loads file classes more) :
    ∃ read, more = loads ++ read ∧ read.Sublist (readable t [file]) := by
  cases h with
  | again _ => exact ⟨[], (List.append_nil loads).symm, List.nil_sublist _⟩
  | @read facts _ hf =>
    refine ⟨[facts], rfl, ?_⟩
    rw [readable, List.filterMap_cons, hf]
    exact List.Sublist.refl _
  | failed _ _ => exact ⟨[], (List.append_nil loads).symm, List.nil_sublist _⟩

theorem ReadAll.sublist {files : List ModuleFile} {classes : List (List Descriptor)} {last : List ModuleFacts}
    (h : ReadAll t loads files classes last) :
    ∃ read, last = loads ++ read ∧ read.Sublist (readable t files) := by
  induction h with
  | nil => exact ⟨[], (List.append_nil _).symm, List.Sublist.refl _⟩
  | @cons loads more last file files classes rest h hs ih =>
    obtain ⟨first, rfl, hfirst⟩ := h.sublist
    obtain ⟨others, rfl, hothers⟩ := ih
    refine ⟨first ++ others, List.append_assoc .., ?_⟩
    rw [readable_cons]
    exact hfirst.append hothers

/-- When the entry types have been found, the files have been read and only the ancestors of classes have been
asked for. -/
theorem EntriesOf.read {files : List ModuleFile} {markers : List String} {s : RunState} {entries : TypeSet}
    {c : Catalogue} (h : EntriesOf t files markers s entries c) (hs : Fresh [] s.catalogue) :
    ∃ last c₀, last.Sublist (readable t files) ∧ Fresh last c₀ ∧ Follows last c₀ c ∧
      Resolves (written last) c₀ c ∧ c.failures = c₀.failures ∧ ∀ e ∈ entries.members, Registered last e := by
  obtain ⟨classes, s₁, hall, rfl, rfl⟩ := h
  obtain ⟨last, hfresh, hread⟩ := enumerate_all hall hs
  obtain ⟨read, rfl, hsub⟩ := hread.sublist
  have hregistered := hread.registered
  have hsound := hfresh.inUse.sound
  have hanswers := answers_implementing markers fun d hd => (hregistered d hd).known
  refine ⟨_, s₁.catalogue, hsub, hfresh, (hanswers.run _ hsound).1, hanswers.resolves _ hsound,
    (hanswers.unheeding _ hsound).failures, fun e he => hregistered e ?_⟩
  have he := TypeSet.mem_of_mem_ofList he
  rw [← hanswers.shown hsound] at he
  exact ((mem_implementing _ _).mp he).1

/-! ## Whole runs -/

/-- The files are read and the entry types found; from there on each visit of a set has an order of its own. -/
def Visits (t : FileTree) (options : ScanOptions) (reached : Reach.Reachability) (schemas : List ModelSchema) :
    Prop :=
  ∃ files s entries c, Gives (loadModules t options.source options.patterns) .start files s ∧
    EntriesOf t files options.entryMarkers s entries c ∧
    Describes options.policy c entries.members reached schemas

theorem gives_unique {α : Type} {x : RunM α} {s s₁ s₂ : RunState} {a b : α} (h₁ : Gives x s a s₁)
    (h₂ : Gives x s b s₂) : a = b ∧ s₁ = s₂ := by
  rw [Gives, h₁] at h₂
  cases h₂
  exact ⟨rfl, rfl⟩

theorem EntriesOf.unique {files : List ModuleFile} {markers : List String} {s : RunState} {entries entries' : TypeSet}
    {c c' : Catalogue} (h : EntriesOf t files markers s entries c) (h' : EntriesOf t files markers s entries' c') :
    entries = entries' ∧ c = c' := by
  obtain ⟨s₁, hgives, rfl⟩ := collectEntryTypes_iff.mpr h
  obtain ⟨s₂, hgives', rfl⟩ := collectEntryTypes_iff.mpr h'
  obtain ⟨rfl, rfl⟩ := gives_unique hgives hgives'
  exact ⟨rfl, rfl⟩

theorem describes_result {c : Catalogue} (hc : Sound loads c) (p : Policy) (o : SetOrder)
    {entries : List Descriptor} (he : ∀ e ∈ entries, Registered loads e) :
    Describes p c entries (Reach.build p view o entries c).1
      (generateSchemas view (some p) ((Reach.build p view o entries c).1.models.visit o)
        (Reach.build p view o entries c).2).1 :=
  Describes.intro (Reach.builds_build hc p o fun e hmem => (he e hmem).known) o

/-- A service with two models, of which one refers to the other. -/
def chosenSource : String :=
  "class S(B):\n  def f(self, c: C)->A:\n    pass\nclass A:\n  d: D\nclass C:\n  pass\nclass D:\n  x: int\n"

def chosenTree : FileTree :=
  ⟨[(["r"], .directory), (["r", "m.py"], .file (Text.ofString chosenSource))], [], []⟩

theorem unambiguous_of_nodup (h : ((classesIn loads).map ClassFacts.qualifiedName).Nodup)
    (hr : ((TypeRef.partsOf (written loads)).map TypeRef.key).Nodup) : Unambiguous loads :=
  ⟨h, fun _ hr₁ _ hr₂ hk => List.inj_on_of_nodup_map hr hr₁ hr₂ hk⟩

/-- The keys of the models that a run has reached; none if it has failed. -/
def keysReached : Except RunFault Reach.Reachability → List String
  | .ok reached => reached.models.keys
  | .error _ => []

/-- A run that reaches models completes, and they are those that it lists. -/
theorem exists_collect {options : ScanOptions} {o : SetOrder} {k : String} {keys : List String}
    (h : keysReached ((reach t options o).run.run .start).1 = k :: keys) :
    ∃ result s, (collect t options o).run.run .start = (.ok result, s) ∧
      ∀ name, name ∈ result.models ↔ name ∈ k :: keys := by
  rcases hrun : (reach t options o).run.run .start with ⟨fault | reached, s₁⟩
  · rw [hrun] at h
    cases h
  · rw [hrun] at h
    obtain ⟨s, hs⟩ := collect_iff_reach.mpr ⟨reached, s₁, hrun, rfl⟩
    obtain ⟨loads, c, _, hb⟩ := reach_gives hrun
    refine ⟨_, s, hs, fun name => ?_⟩
    rw [← h]
    change name ∈ sortedNames reached.models ↔ name ∈ reached.models.keys
    rw [sortedNames_eq fun m hm => (hb.models.all m hm).registered, mem_sortStrings]

def SetOrder.reversed : SetOrder := ⟨List.reverse, List.reverse_perm⟩

/-- A class that is declared twice, below one model and then below another, and refers to another class each
time. -/
def twiceSource : String :=
  "class M:\n  pass\nclass N:\n  pass\nclass P:\n  pass\nclass Q:\n  pass\n" ++
  "class A(M):\n  x: P\nclass A(N):\n  y: Q\nclass S(B):\n  def f(self, m: M, n: N):\n    pass\n"

def twiceTree : FileTree :=
  ⟨[(["r"], .directory), (["r", "m.py"], .file (Text.ofString twiceSource))], [], []⟩

end ModelReach.Run
