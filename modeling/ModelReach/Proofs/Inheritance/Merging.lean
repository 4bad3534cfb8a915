import Mathlib.Data.List.Induction
import Mathlib.Data.List.Nodup
import ModelReach.Types.View

/-! Merging properties by name. A name keeps the place where it came first and the property that came last, so that
merging what was merged before is merging it all at once. -/
namespace ModelReach
set_option autoImplicit false

/-- The names of properties, in their order. -/
def namesOfProperties (ps : List Property) : List String := ps.map Property.name

/-- The last property with a name. -/
def lastNamed (ps : List Property) (name : String) : Option Property := ps.reverse.find? (·.name == name)

/-! ## The last of a name -/

section LastNamed
variable {ps : List Property} {name : String} {q : Property}

theorem lastNamed_append (a b : List Property) (name : String) :
    lastNamed (a ++ b) name = (lastNamed b name).or (lastNamed a name) := by
  rw [lastNamed, List.reverse_append, List.find?_append]
  rfl

theorem mem_of_lastNamed (h : lastNamed ps name = some q) : q ∈ ps :=
  List.mem_reverse.mp (List.mem_of_find?_eq_some h)

theorem name_of_lastNamed (h : lastNamed ps name = some q) : q.name = name := by
  have hname := List.find?_some h
  exact beq_iff_eq.mp hname

theorem lastNamed_eq_none : lastNamed ps name = none ↔ name ∉ namesOfProperties ps := by
  rw [lastNamed, List.find?_eq_none, namesOfProperties, List.mem_map]
  constructor
  · rintro h ⟨q, hq, hname⟩
    exact h q (List.mem_reverse.mpr hq) (beq_iff_eq.mpr hname)
  · intro h q hq hname
    exact h ⟨q, List.mem_reverse.mp hq, beq_iff_eq.mp hname⟩

theorem mem_names_of_lastNamed (h : lastNamed ps name = some q) : name ∈ namesOfProperties ps :=
  List.mem_map.mpr ⟨q, mem_of_lastNamed h, name_of_lastNamed h⟩

end LastNamed

/-! ## One property -/

/-- What stands in the place of a property once another one has been merged. -/
def overridden (p q : Property) : Property := if q.name = p.name then p else q

theorem name_overridden (p q : Property) : (overridden p q).name = q.name := by
  rw [overridden]
  split
  · rename_i h
    exact h.symm
  · rfl

theorem overridden_of_ne {p q : Property} (h : q.name ≠ p.name) : overridden p q = q := if_neg h

section One
variable {m : List Property} {p q r : Property}

theorem names_overridden (m : List Property) (p : Property) :
    namesOfProperties (m.map (overridden p)) = namesOfProperties m := by
  rw [namesOfProperties, List.map_map]
  exact List.map_congr_left fun q _ => name_overridden p q

theorem map_overridden_of_notMem (h : p.name ∉ namesOfProperties m) : m.map (overridden p) = m := by
  conv => rhs; rw [← List.map_id m]
  exact List.map_congr_left fun q hq => overridden_of_ne fun he => h (List.mem_map.mpr ⟨q, hq, he⟩)

theorem mergeProperty_of_mem (h : p.name ∈ namesOfProperties m) : mergeProperty m p = m.map (overridden p) := by
  obtain ⟨q, hq, hname⟩ := List.mem_map.mp h
  have hany : (m.any fun q => q.name == p.name) = true := List.any_eq_true.mpr ⟨q, hq, beq_iff_eq.mpr hname⟩
  rw [mergeProperty, if_pos hany]
  exact List.map_congr_left fun q _ => by simp only [overridden, beq_iff_eq]

theorem mergeProperty_of_notMem (h : p.name ∉ namesOfProperties m) : mergeProperty m p = m ++ [p] := by
  rw [mergeProperty, if_neg]
  intro hany
  obtain ⟨q, hq, hname⟩ := List.any_eq_true.mp hany
  exact h (List.mem_map.mpr ⟨q, hq, beq_iff_eq.mp hname⟩)

theorem names_mergeProperty_of_mem (h : p.name ∈ namesOfProperties m) :
    namesOfProperties (mergeProperty m p) = namesOfProperties m := by
  rw [mergeProperty_of_mem h, names_overridden]

theorem names_mergeProperty_of_notMem (h : p.name ∉ namesOfProperties m) :
    namesOfProperties (mergeProperty m p) = namesOfProperties m ++ [p.name] := by
  rw [mergeProperty_of_notMem h, namesOfProperties, List.map_append]
  rfl

theorem mem_names_mergeProperty {name : String} :
    name ∈ namesOfProperties (mergeProperty m p) ↔ name ∈ namesOfProperties m ∨ name = p.name := by
  by_cases h : p.name ∈ namesOfProperties m
  · rw [names_mergeProperty_of_mem h]
    exact ⟨Or.inl, fun hn => hn.elim id fun he => he ▸ h⟩
  · rw [names_mergeProperty_of_notMem h, List.mem_append, List.mem_singleton]

theorem nodup_mergeProperty (h : (namesOfProperties m).Nodup) (p : Property) :
    (namesOfProperties (mergeProperty m p)).Nodup := by
  by_cases hp : p.name ∈ namesOfProperties m
  · rw [names_mergeProperty_of_mem hp]
    exact h
  · rw [names_mergeProperty_of_notMem hp]
    exact h.append (List.nodup_singleton _) (List.disjoint_singleton.mpr hp)

/-- The later of two properties with one name overrides the earlier. -/
theorem mergeProperty_mergeProperty_same (h : q.name = p.name) :
    mergeProperty (mergeProperty m q) p = mergeProperty m p := by
  have hmem : p.name ∈ namesOfProperties (mergeProperty m q) := mem_names_mergeProperty.mpr (Or.inr h.symm)
  rw [mergeProperty_of_mem hmem]
  by_cases hp : p.name ∈ namesOfProperties m
  · rw [mergeProperty_of_mem hp, mergeProperty_of_mem (by rw [h]; exact hp), List.map_map]
    refine List.map_congr_left fun r _ => ?_
    rw [Function.comp_apply, overridden, name_overridden]
    split
    · rename_i hr
      rw [overridden, if_pos hr]
    · rename_i hr
      rw [overridden_of_ne (by rw [h]; exact hr), overridden_of_ne hr]
  · rw [mergeProperty_of_notMem hp, mergeProperty_of_notMem (by rw [h]; exact hp), List.map_append,
      map_overridden_of_notMem hp, List.map_singleton, overridden, if_pos h]

/-- A property whose name is there can be merged before or after one with another name. -/
theorem mergeProperty_comm (hp : p.name ∈ namesOfProperties m) (hr : r.name ≠ p.name) :
    mergeProperty (mergeProperty m r) p = mergeProperty (mergeProperty m p) r := by
  have hmem : p.name ∈ namesOfProperties (mergeProperty m r) := mem_names_mergeProperty.mpr (Or.inl hp)
  rw [mergeProperty_of_mem hmem]
  by_cases hrm : r.name ∈ namesOfProperties m
  · rw [mergeProperty_of_mem hrm, mergeProperty_of_mem (p := r) (by rw [names_mergeProperty_of_mem hp]; exact hrm),
      mergeProperty_of_mem hp, List.map_map, List.map_map]
    refine List.map_congr_left fun q _ => ?_
    rw [Function.comp_apply, Function.comp_apply]
    by_cases hq : q.name = p.name
    · have hqr : q.name ≠ r.name := by
        rw [hq]
        exact hr.symm
      rw [overridden_of_ne hqr, overridden_of_ne (q := overridden p q) (by rw [name_overridden]; exact hqr)]
    · rw [overridden_of_ne (p := p) (by rw [name_overridden]; exact hq), overridden_of_ne (p := p) hq]
  · rw [mergeProperty_of_notMem hrm,
      mergeProperty_of_notMem (p := r) (by rw [names_mergeProperty_of_mem hp]; exact hrm), List.map_append,
      mergeProperty_of_mem hp, List.map_singleton, overridden_of_ne hr]

end One

/-! ## Many properties -/

theorem mergeProperties_append (m a b : List Property) :
    mergeProperties m (a ++ b) = mergeProperties (mergeProperties m a) b := List.foldl_append

theorem mergeProperties_concat (m l : List Property) (p : Property) :
    mergeProperties m (l ++ [p]) = mergeProperty (mergeProperties m l) p := List.foldl_concat ..

theorem mem_names_mergeProperties {m l : List Property} {name : String} :
    name ∈ namesOfProperties (mergeProperties m l) ↔ name ∈ namesOfProperties m ∨ name ∈ namesOfProperties l := by
  induction l generalizing m with
  | nil => exact (or_iff_left List.not_mem_nil).symm
  | cons p l ih =>
    rw [show mergeProperties m (p :: l) = mergeProperties (mergeProperty m p) l from rfl, ih,
      mem_names_mergeProperty, or_assoc]
    exact or_congr_right List.mem_cons.symm

theorem nodup_mergeProperties {m : List Property} (h : (namesOfProperties m).Nodup) (l : List Property) :
    (namesOfProperties (mergeProperties m l)).Nodup := by
  induction l generalizing m with
  | nil => exact h
  | cons p l ih => exact ih (nodup_mergeProperty h p)

theorem mem_names_merged {l : List Property} {name : String} :
    name ∈ namesOfProperties (mergeProperties [] l) ↔ name ∈ namesOfProperties l :=
  mem_names_mergeProperties.trans (or_iff_right List.not_mem_nil)

theorem nodup_merged (l : List Property) : (namesOfProperties (mergeProperties [] l)).Nodup := by
  have hnil : (namesOfProperties []).Nodup := List.nodup_nil
  exact nodup_mergeProperties hnil l

theorem mergeProperty_mergeProperties_comm {m l : List Property} {p : Property}
    (hp : p.name ∈ namesOfProperties m) (hl : p.name ∉ namesOfProperties l) :
    mergeProperty (mergeProperties m l) p = mergeProperties (mergeProperty m p) l := by
  induction l generalizing m with
  | nil => rfl
  | cons r l ih =>
    have hr : r.name ≠ p.name := fun he => hl (List.mem_cons.mpr (Or.inl he.symm))
    have hrest : p.name ∉ namesOfProperties l := fun h => hl (List.mem_cons_of_mem _ h)
    have hmem : p.name ∈ namesOfProperties (mergeProperty m r) := mem_names_mergeProperty.mpr (Or.inl hp)
    change mergeProperty (mergeProperties (mergeProperty m r) l) p = mergeProperties (mergeProperty (mergeProperty m p) r) l
    rw [ih hmem hrest, mergeProperty_comm hp hr]

theorem mergeProperties_mergeProperty (m : List Property) {k : List Property} (hk : (namesOfProperties k).Nodup)
    (p : Property) : mergeProperties m (mergeProperty k p) = mergeProperty (mergeProperties m k) p := by
  by_cases hp : p.name ∈ namesOfProperties k
  · obtain ⟨q, hq, hname⟩ := List.mem_map.mp hp
    obtain ⟨a, b, rfl⟩ := List.append_of_mem hq
    rw [namesOfProperties, List.map_append, List.map_cons, hname] at hk
    have ha : p.name ∉ namesOfProperties a := fun h =>
      List.disjoint_of_nodup_append hk h (List.mem_cons_self ..)
    have hb : p.name ∉ namesOfProperties b := (List.nodup_cons.mp (List.nodup_append.mp hk).2.1).1
    -- the names of `a` and `b` are others, so the new property takes the place of the old one
    rw [mergeProperty_of_mem hp, List.map_append, List.map_cons, map_overridden_of_notMem ha,
      map_overridden_of_notMem hb, overridden, if_pos hname, mergeProperties_append, mergeProperties_append]
    change mergeProperties (mergeProperty (mergeProperties m a) p) b =
      mergeProperty (mergeProperties (mergeProperty (mergeProperties m a) q) b) p
    rw [mergeProperty_mergeProperties_comm (mem_names_mergeProperty.mpr (Or.inr hname.symm)) hb,
      mergeProperty_mergeProperty_same hname]
  · rw [mergeProperty_of_notMem hp, mergeProperties_concat]

/-- Merging what was merged is merging it all. -/
theorem mergeProperties_mergeProperties (m l : List Property) :
    mergeProperties m (mergeProperties [] l) = mergeProperties m l := by
  induction l using List.reverseRecOn with
  | nil => rfl
  | append_singleton l p ih =>
    rw [mergeProperties_concat, mergeProperties_concat, ← ih]
    exact mergeProperties_mergeProperty m (nodup_merged l) p

/-! ## What merging gives -/

theorem mem_mergeProperty_iff {m : List Property} {p q : Property} :
    q ∈ mergeProperty m p ↔ q = p ∨ q ∈ m ∧ q.name ≠ p.name := by
  by_cases hp : p.name ∈ namesOfProperties m
  · rw [mergeProperty_of_mem hp, List.mem_map]
    constructor
    · rintro ⟨r, hr, rfl⟩
      rw [overridden]
      split
      · exact Or.inl rfl
      · rename_i hne
        exact Or.inr ⟨hr, hne⟩
    · rintro (rfl | ⟨hq, hne⟩)
      · obtain ⟨r, hr, hname⟩ := List.mem_map.mp hp
        exact ⟨r, hr, if_pos hname⟩
      · exact ⟨q, hq, overridden_of_ne hne⟩
  · rw [mergeProperty_of_notMem hp, List.mem_append, List.mem_singleton, or_comm]
    refine or_congr_right (and_iff_left_of_imp fun hq he => ?_).symm
    exact hp (List.mem_map.mpr ⟨q, hq, he⟩)

/-- What is merged under a name is the last property of the name. -/
theorem mem_mergeProperties_iff {l : List Property} {q : Property} :
    q ∈ mergeProperties [] l ↔ lastNamed l q.name = some q := by
  induction l using List.reverseRecOn with
  | nil => exact iff_of_false List.not_mem_nil fun h => nomatch h
  | append_singleton l p ih =>
    have hone : lastNamed [p] q.name = if p.name = q.name then some p else none := by
      simp [lastNamed, List.find?_singleton]
    rw [mergeProperties_concat, mem_mergeProperty_iff, ih, lastNamed_append, hone]
    by_cases hname : p.name = q.name
    · rw [if_pos hname, Option.some_or, Option.some_inj]
      exact ⟨fun h => h.elim Eq.symm fun h => absurd hname.symm h.2, fun h => Or.inl h.symm⟩
    · rw [if_neg hname, Option.none_or]
      exact ⟨fun h => h.elim (fun he => absurd (congrArg Property.name he).symm hname) And.left,
        fun h => Or.inr ⟨h, fun he => hname he.symm⟩⟩

/-- What is merged later changes what is there in its place, and adds the names that are new. -/
theorem mergeProperties_split (m l : List Property) : ∃ old new, mergeProperties m l = old ++ new ∧
    namesOfProperties old = namesOfProperties m ∧ ∀ q ∈ new, q.name ∉ namesOfProperties m := by
  induction l using List.reverseRecOn with
  | nil => exact ⟨m, [], (List.append_nil m).symm, rfl, fun _ h => absurd h List.not_mem_nil⟩
  | append_singleton l p ih =>
    obtain ⟨old, new, he, hold, hnew⟩ := ih
    rw [mergeProperties_concat, he]
    by_cases hp : p.name ∈ namesOfProperties (old ++ new)
    · refine ⟨old.map (overridden p), new.map (overridden p), ?_, by rw [names_overridden, hold], fun q hq => ?_⟩
      · rw [mergeProperty_of_mem hp, List.map_append]
      · obtain ⟨r, hr, rfl⟩ := List.mem_map.mp hq
        rw [name_overridden]
        exact hnew r hr
    · refine ⟨old, new ++ [p], ?_, hold, fun q hq => ?_⟩
      · rw [mergeProperty_of_notMem hp, List.append_assoc]
      · rcases List.mem_append.mp hq with hq | hq
        · exact hnew q hq
        · rw [List.mem_singleton.mp hq, ← hold]
          intro h
          rw [namesOfProperties, List.map_append] at hp
          exact hp (List.mem_append_left _ h)

end ModelReach
