import Mathlib.Data.List.Forall2
import ModelReach.Proofs.Catalogue.Loaded
import ModelReach.Types.Policy

/-! Facts without the annotations that a policy ignores. Sources whose masked facts agree declare the same classes,
and differ only in what the policy ignores. -/
namespace ModelReach
set_option autoImplicit false

/-! ## Masked facts -/

def PropertyFacts.masked (p : Policy) (f : PropertyFacts) : PropertyFacts :=
  if p.ignores f.tags then { f with type := .named "" } else f

def ParameterFacts.masked (p : Policy) (f : ParameterFacts) : ParameterFacts :=
  if p.ignores f.tags then { f with type := none } else f

def MethodFacts.masked (p : Policy) (f : MethodFacts) : MethodFacts :=
  { f with parameters := f.parameters.map (·.masked p) }

/-- The facts about a class without the types of ignored properties and parameters. -/
def ClassFacts.masked (p : Policy) (f : ClassFacts) : ClassFacts :=
  { f with
    properties := f.properties.map (·.masked p)
    methods := f.methods.map (·.masked p) }

def ModuleFacts.masked (p : Policy) (f : ModuleFacts) : ModuleFacts :=
  { f with classes := f.classes.map (·.masked p) }

/-! ## Facts that agree -/

/-- Lists that look alike through two functions have elements that do. -/
theorem forall₂_of_map_eq {α β γ : Type} {f : α → γ} {g : β → γ} {l : List α} {l' : List β}
    (h : l.map f = l'.map g) : List.Forall₂ (fun a b => f a = g b) l l' := by
  rwa [← List.forall₂_eq_eq_eq, List.forall₂_map_left_iff, List.forall₂_map_right_iff] at h

theorem forall₂_of_mem {α β : Type} {R S : α → β → Prop} {l : List α} {l' : List β} (h : List.Forall₂ R l l')
    (hRS : ∀ a ∈ l, ∀ b ∈ l', R a b → S a b) : List.Forall₂ S l l' := by
  induction h with
  | nil => exact List.Forall₂.nil
  | cons hr _ ih =>
    exact List.Forall₂.cons (hRS _ (List.mem_cons_self ..) _ (List.mem_cons_self ..) hr)
      (ih fun a ha b hb => hRS a (List.mem_cons_of_mem _ ha) b (List.mem_cons_of_mem _ hb))

/-- A test that does not tell elements apart that correspond does not tell the lists apart. -/
theorem any_congr {α β : Type} {R : α → β → Prop} {f : α → Bool} {g : β → Bool} (hfg : ∀ a b, R a b → f a = g b)
    {l : List α} {l' : List β} (h : List.Forall₂ R l l') : l.any f = l'.any g := by
  induction h with
  | nil => rfl
  | cons hr _ ih => rw [List.any_cons, List.any_cons, hfg _ _ hr, ih]

theorem map_congr {α β γ : Type} {R : α → β → Prop} {f : α → γ} {g : β → γ} (hfg : ∀ a b, R a b → f a = g b)
    {l : List α} {l' : List β} (h : List.Forall₂ R l l') : l.map f = l'.map g := by
  induction h with
  | nil => rfl
  | cons hr _ ih => rw [List.map_cons, List.map_cons, hfg _ _ hr, ih]

/-- What a mask leaves alone is the same wherever the masked facts are. -/
theorem eq_of_masked_eq {α β : Type} {mask : α → α} (get : α → β) (hget : ∀ a, get (mask a) = get a) {a a' : α}
    (h : mask a = mask a') : get a = get a' := by
  rw [← hget a, h, hget]

section Agreement
variable {p : Policy}

theorem PropertyFacts.name_masked (f : PropertyFacts) : (f.masked p).name = f.name := by
  unfold masked
  split <;> rfl

theorem PropertyFacts.hasDefault_masked (f : PropertyFacts) : (f.masked p).hasDefault = f.hasDefault := by
  unfold masked
  split <;> rfl

theorem PropertyFacts.tags_masked (f : PropertyFacts) : (f.masked p).tags = f.tags := by
  unfold masked
  split <;> rfl

/-- Properties that agree have the same type, unless they are ignored. -/
theorem PropertyFacts.type_eq {f f' : PropertyFacts} (h : f.masked p = f'.masked p)
    (hkept : p.ignores f.tags = false) : f.type = f'.type := by
  have hkept' : p.ignores f'.tags = false := by rw [← eq_of_masked_eq _ tags_masked h, hkept]
  unfold masked at h
  rw [hkept, hkept'] at h
  exact congrArg PropertyFacts.type h

theorem ParameterFacts.tags_masked (f : ParameterFacts) : (f.masked p).tags = f.tags := by
  unfold masked
  split <;> rfl

theorem ParameterFacts.type_eq {f f' : ParameterFacts} (h : f.masked p = f'.masked p)
    (hkept : p.ignores f.tags = false) : f.type = f'.type := by
  have hkept' : p.ignores f'.tags = false := by rw [← eq_of_masked_eq _ tags_masked h, hkept]
  unfold masked at h
  rw [hkept, hkept'] at h
  exact congrArg ParameterFacts.type h

/-- Classes that agree are the same in all that masks leave alone. -/
theorem ClassFacts.same {f f' : ClassFacts} (h : f.masked p = f'.masked p) {β : Type} (get : ClassFacts → β)
    (hget : ∀ f : ClassFacts, get (f.masked p) = get f) : get f = get f' := eq_of_masked_eq get hget h

theorem MethodFacts.returns_masked (f : MethodFacts) : (f.masked p).returns = f.returns := rfl

end Agreement

/-! ## Classes of sources that agree -/

namespace Catalogue

variable {p : Policy} {loads loads' : List ModuleFacts}

theorem classesIn_masked (p : Policy) (loads : List ModuleFacts) :
    classesIn (loads.map (·.masked p)) = (classesIn loads).map (·.masked p) := by
  rw [classesIn, classesIn, List.flatMap_map, List.map_flatMap]
  rfl

/-- The files of a module, in the order in which they are read. -/
def filesOf (module : String) (loads : List ModuleFacts) : List ModuleFacts := loads.filter (·.module == module)

/-- These sources differ only in types that the policy ignores, and in the order in which modules are read. Files of
one and the same module are read in the same order. -/
def Agree (p : Policy) (loads loads' : List ModuleFacts) : Prop :=
  ∀ module, (filesOf module loads).map (·.masked p) = (filesOf module loads').map (·.masked p)

/-- If no two files have the same module, it does not matter in which order they are read. -/
theorem agree_of_perm (hmodules : (loads.map ModuleFacts.module).Nodup)
    (h : (loads.map (·.masked p)).Perm (loads'.map (·.masked p))) : Agree p loads loads' := by
  intro module
  have hperm : ((filesOf module loads).map (·.masked p)).Perm ((filesOf module loads').map (·.masked p)) := by
    have hfilter := h.filter (·.module == module)
    rwa [List.filter_map, List.filter_map] at hfilter
  have hsame : (filesOf module loads).map ModuleFacts.module =
      List.replicate (filesOf module loads).length module := by
    rw [List.eq_replicate_iff, List.length_map, List.forall_mem_map]
    exact ⟨rfl, fun facts hfacts => beq_iff_eq.mp (List.mem_filter.mp hfacts).2⟩
  have hone : (filesOf module loads).length ≤ 1 := by
    rw [← List.nodup_replicate (a := module), ← hsame]
    exact hmodules.sublist (List.filter_sublist.map _)
  generalize filesOf module loads = files at hperm hone
  match files, hone with
  | [], _ => exact (List.nil_perm.mp hperm).symm
  | [facts], _ => exact List.singleton_perm.mp hperm

theorem Agree.symm (h : Agree p loads loads') : Agree p loads' loads := fun module => (h module).symm

/-- Files are counted module by module. -/
theorem Agree.perm (h : Agree p loads loads') : (loads.map (·.masked p)).Perm (loads'.map (·.masked p)) := by
  classical
  have hcount : ∀ (loads : List ModuleFacts) (a : ModuleFacts), (loads.map (·.masked p)).count a =
      ((filesOf a.module loads).map (·.masked p)).count a := by
    intro loads a
    have hfilter := List.count_filter (l := loads.map (·.masked p)) (p := (·.module == a.module))
      (beq_self_eq_true a.module)
    rw [← hfilter, List.filter_map]
    rfl
  exact List.perm_iff_count.mpr fun a => by rw [hcount, h, ← hcount]

theorem Agree.classes (h : Agree p loads loads') :
    ((classesIn loads).map (·.masked p)).Perm ((classesIn loads').map (·.masked p)) := by
  rw [← classesIn_masked, ← classesIn_masked]
  exact h.perm.flatMap_right _

/-- To every class of one source a class of the other corresponds. -/
theorem Agree.exists_class (h : Agree p loads loads') {f : ClassFacts} (hf : f ∈ classesIn loads) :
    ∃ (n : Nat) (f' : ClassFacts), (classesIn loads')[n]? = some f' ∧ f.masked p = f'.masked p := by
  obtain ⟨f', hf', hmasked⟩ := List.mem_map.mp (h.classes.subset (List.mem_map_of_mem hf))
  obtain ⟨n, hn⟩ := List.getElem?_of_mem hf'
  exact ⟨n, f', hn, hmasked.symm⟩

theorem Agree.length_classesIn (h : Agree p loads loads') : (classesIn loads).length = (classesIn loads').length := by
  rw [← List.length_map (f := (·.masked p)), h.classes.length_eq, List.length_map]

theorem baseCount_masked (p : Policy) (classes : List ClassFacts) :
    baseCount (classes.map (·.masked p)) = baseCount classes := by
  induction classes with
  | nil => rfl
  | cons f classes ih =>
    rw [List.map_cons, baseCount, ih, baseCount]
    rfl

theorem baseCount_perm {classes classes' : List ClassFacts} (h : classes.Perm classes') :
    baseCount classes = baseCount classes' := by
  induction h with
  | nil => rfl
  | cons f _ ih => rw [baseCount, ih, baseCount]
  | swap f g classes =>
    simp only [baseCount]
    omega
  | trans _ _ ih ih' => exact ih.trans ih'

theorem Agree.baseCount (h : Agree p loads loads') : baseCount (classesIn loads) = baseCount (classesIn loads') := by
  rw [← baseCount_masked p, baseCount_perm h.classes, baseCount_masked]

/-- The classes of a module are those of its last file. -/
theorem keys_classesOf (loads : List ModuleFacts) (module : String) :
    ((loaded loads).classesOf module).map Descriptor.key =
      ((filesOf module loads).getLast?.map fun facts => facts.classes.map ClassFacts.qualifiedName).getD [] := by
  induction loads using List.reverseRecOn with
  | nil => rfl
  | append_singleton loads facts ih =>
    rw [loaded_concat, filesOf, List.filter_append]
    by_cases hm : facts.module = module
    · rw [← hm, classesOf_register_self, map_key_numbered, List.filter_singleton, beq_self_eq_true,
        cond_true, List.getLast?_concat, Option.map_some, Option.getD_some]
    · rw [classesOf_register_of_ne _ _ (Ne.symm hm), ih, List.filter_singleton, beq_false_of_ne hm,
        cond_false, List.append_nil, filesOf]

/-- The same keys are declared in each module. -/
theorem Agree.keys_classesOf (h : Agree p loads loads') (module : String) :
    ((loaded loads).classesOf module).map Descriptor.key = ((loaded loads').classesOf module).map Descriptor.key := by
  have hmasked : ∀ files : List ModuleFacts,
      (files.getLast?.map fun facts => facts.classes.map ClassFacts.qualifiedName) =
        (files.map (·.masked p)).getLast?.map fun facts => facts.classes.map ClassFacts.qualifiedName := by
    intro files
    rw [List.getLast?_map, Option.map_map]
    refine congrArg (files.getLast?.map ·) (funext fun facts => ?_)
    exact (List.map_map (f := ClassFacts.masked p) (g := ClassFacts.qualifiedName)).symm
  rw [Catalogue.keys_classesOf, Catalogue.keys_classesOf, hmasked, h, ← hmasked]

end Catalogue
end ModelReach
