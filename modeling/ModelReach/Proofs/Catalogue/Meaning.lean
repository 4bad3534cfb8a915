import ModelReach.Proofs.Catalogue.Loaded

/-! What references mean to a catalogue. A table of resolved types only grows while questions are asked; once a
reference has been resolved its meaning stays, and it is what resolving the reference again would give. -/
namespace ModelReach.Catalogue
set_option autoImplicit false

/-! ## Keys -/

theorem length_le_intercalate (sep : String) {parts : List String} {part : String} (h : part ∈ parts) :
    part.length ≤ (sep.intercalate parts).length := by
  induction parts with
  | nil => cases h
  | cons p parts ih =>
    cases parts with
    | nil =>
      have hone : sep.intercalate [p] = p := String.intercalate_singleton
      rw [List.mem_singleton.mp h]
      exact Nat.le_of_eq (congrArg String.length hone.symm)
    | cons q parts =>
      rw [String.intercalate_cons_cons, String.length_append, String.length_append]
      rcases List.mem_cons.mp h with rfl | h
      · omega
      · have hrest := ih h
        omega

theorem length_key_array (element : TypeRef) (unique : Bool) :
    element.key.length < (TypeRef.array element unique).key.length := by
  rw [TypeRef.key, String.length_append, String.length_append]
  have hend : "]".length = 1 := rfl
  omega

theorem keys_eq_map (refs : List TypeRef) : TypeRef.keys refs = refs.map TypeRef.key := by
  induction refs with
  | nil => rfl
  | cons r refs ih => rw [TypeRef.keys, ih, List.map_cons]

theorem length_key_generic (origin : String) {args : List TypeRef} {r : TypeRef} (h : r ∈ args) :
    r.key.length < (TypeRef.generic origin args).key.length := by
  have hr : r.key ∈ TypeRef.keys args := by
    rw [keys_eq_map]
    exact List.mem_map_of_mem h
  have hin := length_le_intercalate ", " hr
  rw [TypeRef.key, String.length_append, String.length_append, String.length_append]
  have hend : "]".length = 1 := rfl
  omega

def arrayKey (element : String) (unique : Bool) : String :=
  (if unique then "set[" else "list[") ++ element ++ "]"

/-- The key of a generic type, by the keys of its arguments. -/
def genericKey (origin : String) (args : List String) : String :=
  origin ++ "[" ++ ", ".intercalate args ++ "]"

theorem key_array (element : TypeRef) (unique : Bool) :
    (TypeRef.array element unique).key = arrayKey element.key unique := by
  rw [TypeRef.key, arrayKey]

theorem key_generic (origin : String) (args : List TypeRef) :
    (TypeRef.generic origin args).key = genericKey origin (args.map TypeRef.key) := by
  rw [TypeRef.key, genericKey, keys_eq_map]

/-! ## Meanings -/

mutual

/-- The type that a reference stands for, from the types resolved so far. -/
def meaning (table : List (String × Descriptor)) : TypeRef → Descriptor
  | .named name => (table.lookup name).getD (leafOfName name)
  | .array element unique =>
    let key := TypeRef.key (.array element unique)
    (table.lookup key).getD (.array key (meaning table element) unique)
  | .generic origin args =>
    let key := TypeRef.key (.generic origin args)
    (table.lookup key).getD (.generic key origin (meanings table args))

def meanings (table : List (String × Descriptor)) : List TypeRef → List Descriptor
  | [] => []
  | r :: rest => meaning table r :: meanings table rest

end

/-- One table knows all that another knows. -/
def Extends (before after : List (String × Descriptor)) : Prop :=
  ∀ k t, before.lookup k = some t → after.lookup k = some t

/-- The reference has been resolved. -/
def Holds (table : List (String × Descriptor)) (r : TypeRef) : Prop := ∃ t, table.lookup r.key = some t

theorem Extends.refl (table : List (String × Descriptor)) : Extends table table := fun _ _ h => h

theorem Extends.trans {a b c : List (String × Descriptor)} (h₁ : Extends a b) (h₂ : Extends b c) :
    Extends a c := fun k t h => h₂ k t (h₁ k t h)

theorem Extends.assign {table : List (String × Descriptor)} {k : String} (h : table.lookup k = none)
    (t : Descriptor) : Extends table (assign table k t) := by
  intro k' t' h'
  rw [lookup_assign_of_ne]
  · exact h'
  · intro he
    rw [he, h] at h'
    cases h'

theorem Holds.mono {a b : List (String × Descriptor)} (h : Extends a b) {r : TypeRef} (hr : Holds a r) :
    Holds b r := by
  obtain ⟨t, ht⟩ := hr
  exact ⟨t, h _ t ht⟩

theorem meaning_of_lookup {table : List (String × Descriptor)} {r : TypeRef} {t : Descriptor}
    (h : table.lookup r.key = some t) : meaning table r = t := by
  cases r with
  | named name => rw [meaning, show table.lookup name = some t from h, Option.getD_some]
  | array element unique => rw [meaning, h, Option.getD_some]
  | generic origin args => rw [meaning, h, Option.getD_some]

theorem Holds.meaning_eq {a b : List (String × Descriptor)} {r : TypeRef} (hr : Holds a r)
    (h : Extends a b) : meaning b r = meaning a r := by
  obtain ⟨t, ht⟩ := hr
  rw [meaning_of_lookup ht, meaning_of_lookup (h _ t ht)]

theorem meanings_eq_map (table : List (String × Descriptor)) (refs : List TypeRef) :
    meanings table refs = refs.map (meaning table) := by
  induction refs with
  | nil => rfl
  | cons r refs ih => rw [meanings, ih, List.map_cons]

/-! ## Current types -/

/-- A type all of whose parts are the classes that stand under their keys, or no classes. -/
inductive Current (loads : List ModuleFacts) : Descriptor → Prop
  | declared {n : Nat} {facts : ClassFacts}
    (h : (loaded loads).get? facts.qualifiedName = some (.declared n facts)) :
    Current loads (.declared n facts)
  | leaf {name : String} (h : (loaded loads).get? name = none) : Current loads (leafOfName name)
  | array {key : String} {element : Descriptor} {unique : Bool} (hk : key = arrayKey element.key unique)
    (h : (loaded loads).get? key = none) (he : Current loads element) :
    Current loads (.array key element unique)
  | generic {key origin : String} {args : List Descriptor}
    (hk : key = genericKey origin (args.map Descriptor.key)) (h : (loaded loads).get? key = none)
    (ha : ∀ a ∈ args, Current loads a) : Current loads (.generic key origin args)

theorem Current.known {loads : List ModuleFacts} {t : Descriptor} (h : Current loads t) :
    Known loads t := by
  intro n f he
  cases h with
  | declared h =>
    cases he
    obtain ⟨n', f', hf, he⟩ := registered_of_get? h
    cases he
    exact hf
  | leaf _ => cases he
  | array _ _ _ => cases he
  | generic _ _ _ => cases he

theorem current_of_get? {loads : List ModuleFacts} {k : String} {t : Descriptor}
    (h : (loaded loads).get? k = some t) : Current loads t := by
  obtain ⟨n, f, _, rfl⟩ := registered_of_get? h
  have hk : f.qualifiedName = k := key_of_get? h
  exact Current.declared (by rw [hk]; exact h)

theorem Current.get?_of_isDeclared {loads : List ModuleFacts} {t : Descriptor} (h : Current loads t)
    (hd : t.isDeclared = true) : (loaded loads).get? t.key = some t := by
  cases h with
  | declared h => exact h
  | leaf _ => cases hd
  | array _ _ _ => cases hd
  | generic _ _ _ => cases hd

theorem Current.qualifiedName_eq {loads : List ModuleFacts} {t : Descriptor} (h : Current loads t) :
    t.qualifiedName = t.key := by
  cases h <;> rfl

/-! ## Tables of current types -/

/-- A table that holds the classes that were read, and otherwise current types under their keys. -/
structure Resolved (loads : List ModuleFacts) (table : List (String × Descriptor)) : Prop where
  present : ∀ k t, (loaded loads).get? k = some t → table.lookup k = some t
  key_eq : ∀ k t, table.lookup k = some t → t.key = k
  current : ∀ k t, table.lookup k = some t → Current loads t

variable {loads : List ModuleFacts}

theorem resolved_loaded : Resolved loads (loaded loads).resolved := by
  rw [loaded_resolved]
  exact ⟨fun k t h => h, fun k t h => key_of_get? h, fun k t h => current_of_get? h⟩

theorem Resolved.get?_eq_none {table : List (String × Descriptor)} (h : Resolved loads table)
    {k : String} (hk : table.lookup k = none) : (loaded loads).get? k = none := by
  cases hg : (loaded loads).get? k with
  | none => rfl
  | some t =>
    rw [h.present k t hg] at hk
    cases hk

theorem Resolved.assign {table : List (String × Descriptor)} (h : Resolved loads table) {k : String}
    (hk : table.lookup k = none) {t : Descriptor} (ht : t.key = k) (hc : Current loads t) :
    Resolved loads (assign table k t) where
  present k' t' h' := Extends.assign hk t k' t' (h.present k' t' h')
  key_eq k' t' h' := by
    rw [lookup_assign] at h'
    split at h'
    · rename_i he
      rw [he, ← Option.some.inj h']
      exact ht
    · exact h.key_eq k' t' h'
  current k' t' h' := by
    rw [lookup_assign] at h'
    split at h'
    · rw [← Option.some.inj h']
      exact hc
    · exact h.current k' t' h'

theorem Resolved.key_meaning {table : List (String × Descriptor)} (h : Resolved loads table)
    (r : TypeRef) : (meaning table r).key = r.key := by
  cases hl : table.lookup r.key with
  | some t => rw [meaning_of_lookup hl, h.key_eq _ t hl]
  | none =>
    cases r with
    | named name => rw [meaning, show table.lookup name = none from hl]; rfl
    | array element unique => rw [meaning, hl]; rfl
    | generic origin args => rw [meaning, hl]; rfl

/-- What a reference means is always a current type. -/
theorem Resolved.current_meaning {table : List (String × Descriptor)} (h : Resolved loads table) :
    ∀ r : TypeRef, Current loads (meaning table r)
  | .named name => by
    rw [meaning]
    cases hl : table.lookup name with
    | none => exact Current.leaf (h.get?_eq_none hl)
    | some t => exact h.current name t hl
  | .array element unique => by
    rw [meaning]
    cases hl : table.lookup (TypeRef.key (.array element unique)) with
    | none =>
      refine Current.array ?_ (h.get?_eq_none hl) (h.current_meaning element)
      rw [key_array, h.key_meaning]
    | some t => exact h.current _ t hl
  | .generic origin args => by
    rw [meaning]
    cases hl : table.lookup (TypeRef.key (.generic origin args)) with
    | none =>
      rw [meanings_eq_map]
      refine Current.generic ?_ (h.get?_eq_none hl) fun a ha => ?_
      · rw [key_generic, List.map_map]
        exact congrArg _ (List.map_congr_left fun r _ => (h.key_meaning r).symm)
      · obtain ⟨r, hr, rfl⟩ := List.mem_map.mp ha
        exact h.current_meaning r
    | some t => exact h.current _ t hl
  termination_by r => sizeOf r
  decreasing_by
    · simp only [TypeRef.array.sizeOf_spec]
      omega
    · have := List.sizeOf_lt_of_mem hr
      simp
      omega

end ModelReach.Catalogue
