import Mathlib.Data.List.Nodup
import ModelReach.Types.TypeSet

/-! Sets of types: what insertion does to the members and their keys. -/
namespace ModelReach.TypeSet
set_option autoImplicit false

/-! ## Keys -/

theorem contains_iff (s : TypeSet) (d : Descriptor) : s.contains d = true ↔ d.key ∈ s.keys := by
  rw [contains, keys, List.any_eq_true, List.mem_map]
  constructor
  · rintro ⟨m, hm, hk⟩
    exact ⟨m, hm, beq_iff_eq.mp hk⟩
  · rintro ⟨m, hm, hk⟩
    exact ⟨m, hm, beq_iff_eq.mpr hk⟩

theorem key_mem_keys {s : TypeSet} {d : Descriptor} (h : d ∈ s.members) : d.key ∈ s.keys :=
  List.mem_map_of_mem h

/-- Of a set without repeated keys, the member with a key is found by it. -/
theorem find?_key {l : List Descriptor} (h : (l.map Descriptor.key).Nodup) {d : Descriptor} (hd : d ∈ l) :
    l.find? (·.key == d.key) = some d := by
  induction l with
  | nil => cases hd
  | cons e l ih =>
    rw [List.map_cons, List.nodup_cons] at h
    rw [List.find?_cons]
    rcases List.mem_cons.mp hd with rfl | hd
    · rw [beq_self_eq_true]
    · have hne : (e.key == d.key) = false := by
        apply beq_false_of_ne
        intro he
        exact h.1 (he ▸ List.mem_map_of_mem hd)
      rw [hne]
      exact ih h.2 hd

/-! ## Insertion -/

theorem insert_of_mem {s : TypeSet} {d : Descriptor} (h : d.key ∈ s.keys) : s.insert d = s := by
  rw [insert, if_pos ((contains_iff s d).mpr h)]

theorem insert_of_notMem {s : TypeSet} {d : Descriptor} (h : d.key ∉ s.keys) :
    s.insert d = ⟨s.members ++ [d]⟩ := by
  rw [insert, if_neg fun hc => h ((contains_iff s d).mp hc)]

theorem mem_of_mem_insert {s : TypeSet} {d t : Descriptor} (h : t ∈ (s.insert d).members) :
    t ∈ s.members ∨ t = d := by
  by_cases hd : d.key ∈ s.keys
  · rw [insert_of_mem hd] at h
    exact Or.inl h
  · rw [insert_of_notMem hd] at h
    rcases List.mem_append.mp h with h | h
    · exact Or.inl h
    · exact Or.inr (List.mem_singleton.mp h)

theorem mem_insert_of_mem {s : TypeSet} {t : Descriptor} (d : Descriptor) (h : t ∈ s.members) :
    t ∈ (s.insert d).members := by
  by_cases hd : d.key ∈ s.keys
  · rw [insert_of_mem hd]
    exact h
  · rw [insert_of_notMem hd]
    exact List.mem_append_left _ h

theorem mem_keys_insert {s : TypeSet} {d : Descriptor} {k : String} :
    k ∈ (s.insert d).keys ↔ k ∈ s.keys ∨ k = d.key := by
  by_cases hd : d.key ∈ s.keys
  · rw [insert_of_mem hd]
    constructor
    · exact Or.inl
    · rintro (h | rfl)
      · exact h
      · exact hd
  · rw [insert_of_notMem hd, keys, List.map_append, List.mem_append, List.map_singleton,
      List.mem_singleton]
    rfl

theorem nodup_insert {s : TypeSet} (h : s.keys.Nodup) (d : Descriptor) : (s.insert d).keys.Nodup := by
  by_cases hd : d.key ∈ s.keys
  · rw [insert_of_mem hd]
    exact h
  · rw [insert_of_notMem hd, keys, List.map_append, List.map_singleton]
    exact List.nodup_append.mpr ⟨h, List.nodup_singleton _, fun a ha b hb hab =>
      hd (by rw [← List.mem_singleton.mp hb, ← hab]; exact ha)⟩

/-! ## Many insertions -/

theorem mem_of_mem_insertAll {s : TypeSet} {ds : List Descriptor} {t : Descriptor}
    (h : t ∈ (s.insertAll ds).members) : t ∈ s.members ∨ t ∈ ds := by
  induction ds generalizing s with
  | nil => exact Or.inl h
  | cons d ds ih =>
    rcases ih h with h | h
    · rcases mem_of_mem_insert h with h | rfl
      · exact Or.inl h
      · exact Or.inr (List.mem_cons_self ..)
    · exact Or.inr (List.mem_cons_of_mem _ h)

theorem mem_keys_insertAll {s : TypeSet} {ds : List Descriptor} {k : String} :
    k ∈ (s.insertAll ds).keys ↔ k ∈ s.keys ∨ k ∈ ds.map Descriptor.key := by
  induction ds generalizing s with
  | nil => simp [insertAll]
  | cons d ds ih =>
    rw [show s.insertAll (d :: ds) = (s.insert d).insertAll ds from rfl, ih, mem_keys_insert,
      List.map_cons, List.mem_cons, or_assoc]

theorem nodup_insertAll {s : TypeSet} (h : s.keys.Nodup) (ds : List Descriptor) :
    (s.insertAll ds).keys.Nodup := by
  induction ds generalizing s with
  | nil => exact h
  | cons d ds ih => exact ih (nodup_insert h d)

theorem nodup_empty : TypeSet.empty.keys.Nodup := List.nodup_nil

/-- Types whose keys are new, and differ from each other, are appended. -/
theorem insertAll_of_nodup {s : TypeSet} {ds : List Descriptor} (h : (s.keys ++ ds.map Descriptor.key).Nodup) :
    s.insertAll ds = ⟨s.members ++ ds⟩ := by
  induction ds generalizing s with
  | nil => rw [List.append_nil]; rfl
  | cons d ds ih =>
    rw [List.map_cons] at h
    have hd : d.key ∉ s.keys := fun hk => (List.nodup_append.mp h).2.2 _ hk _ (List.mem_cons_self ..) rfl
    have hinsert : s.insert d = ⟨s.members ++ [d]⟩ := insert_of_notMem hd
    have hkeys : (s.insert d).keys = s.keys ++ [d.key] := by
      rw [hinsert, keys, List.map_append, List.map_singleton, ← keys]
    rw [List.append_cons, ← hkeys] at h
    rw [show s.insertAll (d :: ds) = (s.insert d).insertAll ds from rfl, ih h, hinsert, List.append_assoc]
    rfl

theorem empty_union {s : TypeSet} (h : s.keys.Nodup) : empty.union s = s := insertAll_of_nodup (s := empty) h

theorem mem_of_mem_ofList {ds : List Descriptor} {t : Descriptor} (h : t ∈ (ofList ds).members) :
    t ∈ ds := (mem_of_mem_insertAll h).resolve_left List.not_mem_nil

theorem mem_keys_ofList {ds : List Descriptor} {k : String} :
    k ∈ (ofList ds).keys ↔ k ∈ ds.map Descriptor.key := by
  rw [ofList, mem_keys_insertAll]
  exact or_iff_right List.not_mem_nil

/-! ## Visits -/

theorem mem_visit {s : TypeSet} {o : SetOrder} {t : Descriptor} : t ∈ s.visit o ↔ t ∈ s.members :=
  (o.perm s.members).mem_iff

end ModelReach.TypeSet
