import ModelReach.Types.Catalogue

/-! Keyed entries: what giving a key a value does to look-ups and to the keys. -/
namespace ModelReach.Catalogue
set_option autoImplicit false

variable {α : Type}

/-! ## One assignment -/

theorem any_key_iff (l : List (String × α)) (k : String) :
    l.any (·.1 = k) = true ↔ k ∈ l.map Prod.fst := by
  simp [List.any_eq_true]

theorem map_fst_replace (l : List (String × α)) (k : String) (v : α) :
    (l.map fun e => if e.1 = k then (k, v) else e).map Prod.fst = l.map Prod.fst := by
  rw [List.map_map]
  apply List.map_congr_left
  intro e _
  by_cases h : e.1 = k
  · simp [h]
  · simp [h]

theorem keys_assign (l : List (String × α)) (k : String) (v : α) :
    (assign l k v).map Prod.fst =
      if k ∈ l.map Prod.fst then l.map Prod.fst else l.map Prod.fst ++ [k] := by
  unfold assign
  by_cases h : l.any (·.1 = k) = true
  · rw [if_pos h, if_pos ((any_key_iff l k).mp h), map_fst_replace]
  · rw [if_neg h, if_neg (fun hk => h ((any_key_iff l k).mpr hk)), List.map_append]
    rfl

theorem mem_assign {l : List (String × α)} {k : String} {v : α} {e : String × α}
    (h : e ∈ assign l k v) : e = (k, v) ∨ e ∈ l := by
  unfold assign at h
  split at h
  · obtain ⟨e', he', rfl⟩ := List.mem_map.mp h
    by_cases hk : e'.1 = k
    · left; rw [if_pos hk]
    · right; rw [if_neg hk]; exact he'
  · rcases List.mem_append.mp h with h | h
    · exact Or.inr h
    · exact Or.inl (List.mem_singleton.mp h)

theorem lookup_replace (l : List (String × α)) (k k' : String) (v : α) :
    (l.map fun e => if e.1 = k then (k, v) else e).lookup k' =
      if k' = k then (l.lookup k).map fun _ => v else l.lookup k' := by
  induction l with
  | nil => simp
  | cons e l ih =>
    rw [List.map_cons, List.lookup_cons, ih, List.lookup_cons, List.lookup_cons]
    by_cases he : e.1 = k
    · by_cases hk : k' = k
      · simp [he, hk]
      · simp [he, hk, beq_false_of_ne hk]
    · by_cases hk : k' = k
      · have hke : (k == e.1) = false := beq_false_of_ne (Ne.symm he)
        simp [he, hk, hke]
      · simp [he, hk]

theorem lookup_assign (l : List (String × α)) (k k' : String) (v : α) :
    (assign l k v).lookup k' = if k' = k then some v else l.lookup k' := by
  unfold assign
  by_cases h : l.any (·.1 = k) = true
  · rw [if_pos h, lookup_replace]
    have hsome : (l.lookup k).isSome = true := by
      rw [List.lookup_isSome_iff]
      obtain ⟨e, he, hk⟩ := List.any_eq_true.mp h
      exact ⟨e, he, beq_iff_eq.mpr (of_decide_eq_true hk).symm⟩
    obtain ⟨w, hw⟩ := Option.isSome_iff_exists.mp hsome
    rw [hw, Option.map_some]
  · rw [if_neg h, List.lookup_append]
    by_cases hk : k' = k
    · have hnone : l.lookup k = none := by
        rw [List.lookup_eq_none_iff]
        intro e he
        have hne : ¬ e.1 = k := fun hek => h (List.any_eq_true.mpr ⟨e, he, by simpa using hek⟩)
        exact bne_iff_ne.mpr (Ne.symm hne)
      rw [hk, hnone, if_pos rfl]
      simp
    · rw [if_neg hk]
      simp [List.lookup_cons, beq_false_of_ne hk]

theorem lookup_assign_self (l : List (String × α)) (k : String) (v : α) :
    (assign l k v).lookup k = some v := by
  rw [lookup_assign, if_pos rfl]

theorem lookup_assign_of_ne (l : List (String × α)) {k k' : String} (h : k' ≠ k) (v : α) :
    (assign l k v).lookup k' = l.lookup k' := by
  rw [lookup_assign, if_neg h]

theorem nodup_keys_assign {l : List (String × α)} (h : (l.map Prod.fst).Nodup) (k : String) (v : α) :
    ((assign l k v).map Prod.fst).Nodup := by
  rw [keys_assign]
  split
  · exact h
  · rename_i hk
    exact List.nodup_append.mpr ⟨h, by simp, fun a ha b hb hab =>
      hk (by rw [← List.mem_singleton.mp hb, ← hab]; exact ha)⟩

theorem length_assign_le (l : List (String × α)) (k : String) (v : α) :
    (assign l k v).length ≤ l.length + 1 := by
  unfold assign
  split <;> simp

theorem mem_of_lookup {l : List (String × α)} {k : String} {v : α} (h : l.lookup k = some v) :
    (k, v) ∈ l := by
  obtain ⟨l₁, l₂, rfl, _⟩ := List.lookup_eq_some_iff.mp h
  simp

end ModelReach.Catalogue
