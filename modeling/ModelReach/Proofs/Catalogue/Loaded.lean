import Mathlib.Data.List.Induction
import ModelReach.Proofs.Catalogue.Entries

/-! Catalogues into which files have been read, and of which nothing has been asked yet. Classes are
numbered in the order in which they are read; under one key the class read last stands. -/
namespace ModelReach.Catalogue
set_option autoImplicit false

/-! ## Numbered classes -/

theorem numbered_append (n : Nat) (a b : List ClassFacts) :
    numbered n (a ++ b) = numbered n a ++ numbered (n + a.length) b := by
  induction a generalizing n with
  | nil => rfl
  | cons f a ih =>
    rw [List.cons_append, numbered, ih, numbered, List.cons_append, List.length_cons]
    rw [show n + 1 + a.length = n + (a.length + 1) by omega]

theorem length_numbered (n : Nat) (l : List ClassFacts) : (numbered n l).length = l.length := by
  induction l generalizing n with
  | nil => rfl
  | cons f l ih => rw [numbered, List.length_cons, List.length_cons, ih]

theorem map_key_numbered (n : Nat) (l : List ClassFacts) :
    (numbered n l).map Descriptor.key = l.map ClassFacts.qualifiedName := by
  induction l generalizing n with
  | nil => rfl
  | cons f l ih => rw [numbered, List.map_cons, List.map_cons, ih]; rfl

theorem mem_numbered {n : Nat} {l : List ClassFacts} {t : Descriptor} :
    t ∈ numbered n l ↔ ∃ i f, l[i]? = some f ∧ t = .declared (n + i) f := by
  induction l generalizing n with
  | nil => simp [numbered]
  | cons g l ih =>
    rw [numbered, List.mem_cons, ih]
    constructor
    · rintro (rfl | ⟨i, f, hf, rfl⟩)
      · exact ⟨0, g, rfl, rfl⟩
      · exact ⟨i + 1, f, hf, by rw [show n + 1 + i = n + (i + 1) by omega]⟩
    · rintro ⟨i, f, hf, rfl⟩
      cases i with
      | zero =>
        left
        rw [List.getElem?_cons_zero, Option.some_inj] at hf
        rw [hf, Nat.add_zero]
      | succ i =>
        right
        exact ⟨i, f, hf, by rw [show n + 1 + i = n + (i + 1) by omega]⟩

/-! ## Loaded catalogues -/

/-- All classes of files in the order of reading; the place of a class is its number. -/
def classesIn (loads : List ModuleFacts) : List ClassFacts := loads.flatMap ModuleFacts.classes

/-- The catalogue after files with these facts have been read, before anything is asked of it. -/
def loaded (loads : List ModuleFacts) : Catalogue := loads.foldl register empty

/-- The type is a class that was read, be it hidden by a later one or not. -/
def Registered (loads : List ModuleFacts) (t : Descriptor) : Prop :=
  ∃ n f, (classesIn loads)[n]? = some f ∧ t = .declared n f

/-- If the type is a class at all, it is one that was read. -/
def Known (loads : List ModuleFacts) (t : Descriptor) : Prop :=
  ∀ n f, t = .declared n f → (classesIn loads)[n]? = some f

theorem Registered.known {loads : List ModuleFacts} {t : Descriptor} (h : Registered loads t) :
    Known loads t := by
  obtain ⟨n, f, hf, rfl⟩ := h
  intro n' f' he
  cases he
  exact hf

theorem Known.registered {loads : List ModuleFacts} {n : Nat} {f : ClassFacts}
    (h : Known loads (.declared n f)) : Registered loads (.declared n f) := ⟨n, f, h n f rfl, rfl⟩

theorem registered_iff_mem {loads : List ModuleFacts} {t : Descriptor} :
    Registered loads t ↔ t ∈ numbered 0 (classesIn loads) := by
  rw [mem_numbered]
  constructor
  · rintro ⟨n, f, hf, rfl⟩
    exact ⟨n, f, hf, by rw [Nat.zero_add]⟩
  · rintro ⟨n, f, hf, rfl⟩
    exact ⟨n, f, hf, by rw [Nat.zero_add]⟩

theorem classesIn_append (a b : List ModuleFacts) : classesIn (a ++ b) = classesIn a ++ classesIn b :=
  List.flatMap_append

theorem classesIn_concat (loads : List ModuleFacts) (facts : ModuleFacts) :
    classesIn (loads ++ [facts]) = classesIn loads ++ facts.classes := by
  rw [classesIn_append, classesIn, classesIn, List.flatMap_singleton]

theorem loaded_concat (loads : List ModuleFacts) (facts : ModuleFacts) :
    loaded (loads ++ [facts]) = (loaded loads).register facts := by
  rw [loaded, loaded, List.foldl_append, List.foldl_cons, List.foldl_nil]

theorem loaded_settled (loads : List ModuleFacts) :
    (loaded loads).settled = (classesIn loads).map fun _ => Settled.nothing := by
  induction loads using List.reverseRecOn with
  | nil => rfl
  | append_singleton loads facts ih =>
    rw [loaded_concat, classesIn_concat, List.map_append, ← ih]
    rfl

theorem length_loaded_settled (loads : List ModuleFacts) :
    (loaded loads).settled.length = (classesIn loads).length := by
  rw [loaded_settled, List.length_map]

theorem baseCount_append (a b : List ClassFacts) : baseCount (a ++ b) = baseCount a + baseCount b := by
  induction a with
  | nil => exact (Nat.zero_add _).symm
  | cons f a ih => rw [List.cons_append, baseCount, ih, baseCount, Nat.add_assoc]

theorem loaded_edges (loads : List ModuleFacts) : (loaded loads).edges = baseCount (classesIn loads) := by
  induction loads using List.reverseRecOn with
  | nil => rfl
  | append_singleton loads facts ih =>
    rw [loaded_concat, classesIn_concat, baseCount_append, ← ih]
    rfl

theorem loaded_declared (loads : List ModuleFacts) :
    (loaded loads).declared =
      (numbered 0 (classesIn loads)).foldl (fun done t => assign done t.key t) [] := by
  induction loads using List.reverseRecOn with
  | nil => rfl
  | append_singleton loads facts ih =>
    rw [loaded_concat, classesIn_concat, numbered_append, List.foldl_append, ← ih, Nat.zero_add,
      ← length_loaded_settled]
    rfl

theorem loaded_resolved (loads : List ModuleFacts) :
    (loaded loads).resolved = (loaded loads).declared := by
  induction loads using List.reverseRecOn with
  | nil => rfl
  | append_singleton loads facts _ => rw [loaded_concat]; rfl

/-! ## The class that stands under a key -/

theorem lookup_declare (ts : List Descriptor) (l : List (String × Descriptor)) (k : String) :
    (ts.foldl (fun done t => assign done t.key t) l).lookup k =
      (ts.reverse.find? (·.key == k)).or (l.lookup k) := by
  induction ts generalizing l with
  | nil => rfl
  | cons t ts ih =>
    rw [List.foldl_cons, ih, lookup_assign, List.reverse_cons, List.find?_append, Option.or_assoc]
    congr 1
    by_cases h : t.key = k
    · simp [h]
    · simp [h, Ne.symm h]

theorem length_declare_le (ts : List Descriptor) (l : List (String × Descriptor)) :
    (ts.foldl (fun done t => assign done t.key t) l).length ≤ l.length + ts.length := by
  induction ts generalizing l with
  | nil => exact Nat.le_refl _
  | cons t ts ih =>
    have h := ih (assign l t.key t)
    have h' := length_assign_le l t.key t
    rw [List.foldl_cons, List.length_cons]
    omega

theorem loaded_get? (loads : List ModuleFacts) (k : String) :
    (loaded loads).get? k = (numbered 0 (classesIn loads)).reverse.find? (·.key == k) := by
  rw [get?, loaded_declared, lookup_declare, List.lookup_nil, Option.or_none]

theorem key_of_get? {loads : List ModuleFacts} {k : String} {t : Descriptor}
    (h : (loaded loads).get? k = some t) : t.key = k := by
  rw [loaded_get?] at h
  have hk := List.find?_some h
  exact beq_iff_eq.mp hk

theorem registered_of_get? {loads : List ModuleFacts} {k : String} {t : Descriptor}
    (h : (loaded loads).get? k = some t) : Registered loads t := by
  rw [loaded_get?] at h
  exact registered_iff_mem.mpr (List.mem_reverse.mp (List.mem_of_find?_eq_some h))

theorem Registered.exists_get? {loads : List ModuleFacts} {t : Descriptor} (h : Registered loads t) :
    ∃ t', (loaded loads).get? t.key = some t' := by
  rw [loaded_get?, ← Option.isSome_iff_exists, List.find?_isSome]
  exact ⟨t, List.mem_reverse.mpr (registered_iff_mem.mp h), beq_self_eq_true t.key⟩

theorem length_declared_le (loads : List ModuleFacts) :
    (loaded loads).declared.length ≤ (classesIn loads).length := by
  have h := length_declare_le (numbered 0 (classesIn loads)) []
  rw [length_numbered, List.length_nil, Nat.zero_add] at h
  rw [loaded_declared]
  exact h

/-! ## The classes of a module -/

theorem registered_concat {loads : List ModuleFacts} {t : Descriptor} (facts : ModuleFacts)
    (h : Registered loads t) : Registered (loads ++ [facts]) t := by
  obtain ⟨n, f, hf, rfl⟩ := h
  refine ⟨n, f, ?_, rfl⟩
  rw [classesIn_concat, List.getElem?_append_left]
  · exact hf
  · exact (List.getElem?_eq_some_iff.mp hf).1

theorem registered_of_read {loads : List ModuleFacts} {t : Descriptor} {facts : ModuleFacts}
    (h : t ∈ numbered (loaded loads).settled.length facts.classes) :
    Registered (loads ++ [facts]) t := by
  rw [registered_iff_mem, classesIn_concat, numbered_append, Nat.zero_add, ← length_loaded_settled]
  exact List.mem_append_right _ h

theorem registered_of_mem_byModule {loads : List ModuleFacts} {e : String × List Descriptor}
    {t : Descriptor} (he : e ∈ (loaded loads).byModule) (ht : t ∈ e.2) : Registered loads t := by
  induction loads using List.reverseRecOn generalizing e with
  | nil => cases he
  | append_singleton loads facts ih =>
    rw [loaded_concat] at he
    rcases mem_assign he with rfl | he
    · exact registered_of_read ht
    · exact registered_concat facts (ih he ht)

theorem registered_of_mem_classesOf {loads : List ModuleFacts} {module : String} {t : Descriptor}
    (h : t ∈ (loaded loads).classesOf module) : Registered loads t := by
  unfold classesOf at h
  cases hl : (loaded loads).byModule.lookup module with
  | none => rw [hl] at h; cases h
  | some ts =>
    rw [hl] at h
    exact registered_of_mem_byModule (mem_of_lookup hl) h

theorem classesOf_register_self (c : Catalogue) (facts : ModuleFacts) :
    (c.register facts).classesOf facts.module = numbered c.settled.length facts.classes := by
  rw [classesOf]
  change ((assign c.byModule facts.module _).lookup facts.module).getD [] = _
  rw [lookup_assign_self, Option.getD_some]

theorem classesOf_register_of_ne (c : Catalogue) (facts : ModuleFacts) {module : String}
    (h : module ≠ facts.module) : (c.register facts).classesOf module = c.classesOf module := by
  rw [classesOf]
  change ((assign c.byModule facts.module _).lookup module).getD [] = _
  rw [lookup_assign_of_ne _ h]
  rfl

/-- The classes of a module stand until a file with the same module is read. -/
theorem classesOf_loaded_append (before : List ModuleFacts) {after : List ModuleFacts} {module : String}
    (h : ∀ g ∈ after, g.module ≠ module) :
    (loaded (before ++ after)).classesOf module = (loaded before).classesOf module := by
  induction after using List.reverseRecOn with
  | nil => rw [List.append_nil]
  | append_singleton after g ih =>
    have hg : module ≠ g.module := Ne.symm (h g (List.mem_append_right _ (List.mem_singleton_self g)))
    rw [← List.append_assoc, loaded_concat, classesOf_register_of_ne _ _ hg]
    exact ih fun g' hg' => h g' (List.mem_append_left _ hg')

theorem classesOf_loaded_last (before : List ModuleFacts) {facts : ModuleFacts} {after : List ModuleFacts}
    (h : ∀ g ∈ after, g.module ≠ facts.module) : (loaded (before ++ facts :: after)).classesOf facts.module =
      numbered (classesIn before).length facts.classes := by
  rw [← List.singleton_append, ← List.append_assoc, classesOf_loaded_append _ h, loaded_concat,
    classesOf_register_self, length_loaded_settled]

theorem key_mem_classesOf_last (before : List ModuleFacts) {facts : ModuleFacts} {after : List ModuleFacts}
    (h : ∀ g ∈ after, g.module ≠ facts.module) {f : ClassFacts} (hf : f ∈ facts.classes) :
    f.qualifiedName ∈ ((loaded (before ++ facts :: after)).classesOf facts.module).map Descriptor.key := by
  rw [classesOf_loaded_last before h]
  obtain ⟨i, hi⟩ := List.getElem?_of_mem hf
  exact List.mem_map.mpr ⟨_, mem_numbered.mpr ⟨i, f, hi, rfl⟩, rfl⟩

/-- Under the full name of a class that was read stands a class with that name. -/
theorem exists_get?_of_mem {loads : List ModuleFacts} {f : ClassFacts} (hf : f ∈ classesIn loads) :
    ∃ d, (loaded loads).get? f.qualifiedName = some d ∧ d.key = f.qualifiedName := by
  obtain ⟨i, hi⟩ := List.getElem?_of_mem hf
  have hregistered : Registered loads (.declared i f) := ⟨i, f, hi, rfl⟩
  obtain ⟨d, hd⟩ := hregistered.exists_get?
  exact ⟨d, hd, key_of_get? hd⟩

/-- The module of a file that was read is known, if no path was read twice. -/
theorem lookup_modules_of_mem {loads : List ModuleFacts} (hpaths : (loads.map ModuleFacts.path).Nodup)
    {facts : ModuleFacts} (h : facts ∈ loads) :
    (loaded loads).modules.lookup facts.path = some facts.module := by
  induction loads using List.reverseRecOn with
  | nil => cases h
  | append_singleton loads g ih =>
    rw [List.map_append, List.nodup_append] at hpaths
    rw [loaded_concat]
    change (assign (loaded loads).modules g.path g.module).lookup facts.path = _
    rcases List.mem_append.mp h with h | h
    · have hne : facts.path ≠ g.path :=
        hpaths.2.2 _ (List.mem_map_of_mem h) _ (List.mem_singleton_self _)
      rw [lookup_assign_of_ne _ hne]
      exact ih hpaths.1 h
    · rw [List.mem_singleton.mp h, lookup_assign_self]

end ModelReach.Catalogue
