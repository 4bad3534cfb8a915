import ModelReach.Proofs.Inheritance.Asking

/-! The ways up from a class: the names of its ancestors are those that can be reached by the names of bases, and
the classes among them those that can be reached by classes. -/
namespace ModelReach.Catalogue
set_option autoImplicit false

variable {loads : List ModuleFacts} {t : Descriptor}

/-! ## Steps up -/

/-- One name is that of a base of the class that another one stands for, as seen from a class. -/
def Up (loads : List ModuleFacts) (t : Descriptor) (k m : String) : Prop := m ∈ baseNamesFrom loads t k

/-- A class has bases, so whatever has a name above it is a class. -/
theorem isSome_of_up {k m : String} (h : Up loads t k m) : (seenFrom loads t k).isSome = true := by
  rw [Up, baseNamesFrom] at h
  cases hk : seenFrom loads t k with
  | none =>
    rw [hk] at h
    exact absurd h List.not_mem_nil
  | some _ => rfl

theorem transGen_classNames {k m : String} (h : Relation.TransGen (Up loads t) k m)
    (hm : (seenFrom loads t m).isSome = true) : Relation.TransGen (fun k m => m ∈ classNamesFrom loads t k) k m := by
  induction h with
  | single h => exact Relation.TransGen.single (mem_classNamesFrom.mpr ⟨h, hm⟩)
  | tail _ h ih => exact (ih (isSome_of_up h)).tail (mem_classNamesFrom.mpr ⟨h, hm⟩)

theorem reaches_classNames {k : String} : Reaches (classNamesFrom loads t) t.key k ↔
    Reaches (baseNamesFrom loads t) t.key k ∧ (seenFrom loads t k).isSome = true := by
  constructor
  · intro h
    refine ⟨Relation.ReflTransGen.mono (fun _ _ h => (mem_classNamesFrom.mp h).1) _ _ h, ?_⟩
    rcases h.cases_tail with rfl | ⟨_, _, h⟩
    · rw [seenFrom_self]
      rfl
    · exact (mem_classNamesFrom.mp h).2
  · rintro ⟨h, hk⟩
    rcases Relation.reflTransGen_iff_eq_or_transGen.mp h with rfl | h
    · exact Relation.ReflTransGen.refl
    · exact (transGen_classNames h hk).to_reflTransGen

/-! ## Climbing -/

theorem baseNamesFrom_of_ne {k : String} (h : k ≠ t.key) : baseNamesFrom loads t k = nextNames loads k := by
  rw [baseNamesFrom, seenFrom_of_ne h, nextNames_eq]

theorem baseNamesFrom_self {n : Nat} {facts : ClassFacts} :
    baseNamesFrom loads (.declared n facts) facts.qualifiedName = baseNames facts := by
  rw [baseNamesFrom, show facts.qualifiedName = (Descriptor.declared n facts).key from rfl, seenFrom_self]
  rfl

/-- The names that are climbed to from a class are those that can be reached from its own, and others. -/
theorem climbs_iff {n : Nat} {facts : ClassFacts} {k : String} :
    Climbs (nextNames loads) facts.qualifiedName (baseNames facts) k ↔
      k ≠ facts.qualifiedName ∧ Reaches (baseNamesFrom loads (.declared n facts)) facts.qualifiedName k := by
  constructor
  · intro h
    refine ⟨h.ne_origin, ?_⟩
    induction h with
    | start h _ =>
      refine Relation.ReflTransGen.single ?_
      rw [baseNamesFrom_self]
      exact h
    | next hm h _ ih =>
      refine ih.tail ?_
      rw [baseNamesFrom_of_ne hm.ne_origin]
      exact h
  · rintro ⟨hk, h⟩
    induction h with
    | refl => exact absurd rfl hk
    | @tail m k _ h ih =>
      by_cases hm : m = facts.qualifiedName
      · rw [hm, baseNamesFrom_self] at h
        exact Climbs.start h hk
      · rw [baseNamesFrom_of_ne hm] at h
        exact Climbs.next (ih hm) h hk

/-- From a class above another one, the same names are climbed to, unless a way leads back to that one. -/
theorem transGen_of_climbs {m : Nat} {facts : ClassFacts} {k : String}
    (hw : seenFrom loads t facts.qualifiedName = some (.declared m facts))
    (hback : ¬ Relation.TransGen (Up loads t) facts.qualifiedName t.key)
    (h : Climbs (nextNames loads) facts.qualifiedName (baseNames facts) k) :
    Relation.TransGen (Up loads t) facts.qualifiedName k := by
  have hself : baseNamesFrom loads t facts.qualifiedName = baseNames facts := by
    rw [baseNamesFrom, hw]
    rfl
  induction h with
  | start h _ =>
    refine Relation.TransGen.single ?_
    rw [Up, hself]
    exact h
  | @next m k _ h _ ih =>
    have hne : m ≠ t.key := fun he => hback (he ▸ ih)
    refine ih.tail ?_
    rw [Up, baseNamesFrom_of_ne hne]
    exact h

/-! ## Ancestors -/

section Ancestors
variable {c : Catalogue} (hc : Sound loads c)
include hc

theorem current_of_mem_view_ancestors (ht : Registered loads t) : ∀ a ∈ (view.ancestors t c).1, Current loads a := by
  have hanswers : Answers loads (view.ancestors t) (fun c => c.lineageReading.ancestors t) := answers_ancestors ht.known
  intro a ha
  rw [← hanswers.shown hc] at ha
  exact current_of_mem_ancestors (hanswers.sound hc).resolved ha

theorem mem_key_view_ancestors {n : Nat} {facts : ClassFacts} (ht : Registered loads (.declared n facts)) (k : String) :
    k ∈ (view.ancestors (.declared n facts) c).1.map Descriptor.key ↔
      Climbs (nextNames loads) facts.qualifiedName (baseNames facts) k := by
  have hanswers : Answers loads (view.ancestors (.declared n facts))
    (fun c => c.lineageReading.ancestors (.declared n facts)) := answers_ancestors ht.known
  have hsound := hanswers.sound hc
  rw [← hanswers.shown hc, map_key_ancestors hsound.resolved hsound.edges, namesAbove]
  exact mem_visitNames (bounded_nextNames loads) k

/-- The declared classes among the ancestors of a class are those that it reaches, itself excepted. -/
theorem mem_view_ancestors_iff (ht : Registered loads t) {u : Descriptor} :
    u ∈ (view.ancestors t c).1 ∧ u.isDeclared = true ↔
      u.key ≠ t.key ∧ seenFrom loads t u.key = some u ∧ Reaches (baseNamesFrom loads t) t.key u.key := by
  obtain ⟨n, facts, hf, rfl⟩ := ht
  have ht : Registered loads (.declared n facts) := ⟨n, facts, hf, rfl⟩
  have hkey := mem_key_view_ancestors hc ht u.key
  rw [climbs_iff (n := n)] at hkey
  have hstands : ∀ a ∈ (view.ancestors (.declared n facts) c).1, a.isDeclared = true → a.key ≠ facts.qualifiedName →
      seenFrom loads (.declared n facts) a.key = some a := by
    intro a ha hd hne
    rw [seenFrom_of_ne (t := .declared n facts) hne]
    exact (current_of_mem_view_ancestors hc ht a ha).get?_of_isDeclared hd
  constructor
  · rintro ⟨hu, hd⟩
    obtain ⟨hne, hreaches⟩ := hkey.mp (List.mem_map_of_mem hu)
    exact ⟨hne, hstands u hu hd hne, hreaches⟩
  · rintro ⟨hne, hu, hreaches⟩
    obtain ⟨a, ha, hak⟩ := List.mem_map.mp (hkey.mpr ⟨hne, hreaches⟩)
    have hd : a.isDeclared = true := by
      rw [← isSome_seenFrom_key ht (current_of_mem_view_ancestors hc ht a ha), hak, hu]
      rfl
    have hau := hstands a ha hd (by rw [hak]; exact hne)
    rw [hak, hu, Option.some_inj] at hau
    rw [hau]
    exact ⟨ha, hd⟩

/-- A class below another one climbs to its name. -/
theorem climbs_of_isStrictSubtype {n : Nat} {facts : ClassFacts} (hw : Registered loads (.declared n facts))
    {u : Descriptor} (h : (view.isStrictSubtype (.declared n facts) u c).1 = true) :
    Climbs (nextNames loads) facts.qualifiedName (baseNames facts) u.key := by
  have hanswers : Answers loads (view.isStrictSubtype (.declared n facts) u)
    (fun c => c.lineageReading.isStrictSubtype (.declared n facts) u) := answers_isStrictSubtype hw.known u
  have hsound := hanswers.sound hc
  rw [← hanswers.shown hc] at h
  generalize (view.isStrictSubtype (.declared n facts) u c).2 = d at h hsound
  unfold Lineage.isStrictSubtype at h
  split at h
  · exact absurd h Bool.false_ne_true
  · obtain ⟨a, ha, hak⟩ := List.any_eq_true.mp h
    have hkeys := map_key_ancestors hsound.resolved hsound.edges n facts
    rw [← mem_visitNames (bounded_nextNames loads), ← beq_iff_eq.mp hak]
    change a.key ∈ namesAbove loads facts
    rw [← hkeys]
    exact List.mem_map_of_mem ha

/-- The keys of the bases of a class are the names of its bases. -/
theorem map_key_view_bases {n : Nat} {facts : ClassFacts} (hu : Registered loads (.declared n facts)) :
    (view.bases (.declared n facts) c).1.map Descriptor.key = baseNames facts := by
  have hanswers : Answers loads (view.bases (.declared n facts)) (fun c => c.reading.bases (.declared n facts)) :=
    answers_bases hu.known
  rw [← hanswers.shown hc]
  exact map_key_basesIn (hanswers.sound hc).resolved facts

end Ancestors

end ModelReach.Catalogue
