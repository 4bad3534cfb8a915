import ModelReach.Proofs.Catalogue.Questions
import ModelReach.Proofs.Reach.Sets

/-! The models that a type refers to are accepted types among its leaves and their bases, and no accepted leaf
is missed, however deep it lies in arrays and generic types. -/
namespace ModelReach
set_option autoImplicit false

/-! ## Leaves -/

mutual

/-- The types that a type is made of in the end, seen through arrays and generic types. -/
def Descriptor.leaves : Descriptor → List Descriptor
  | .array _ element _ => element.leaves
  | .generic _ _ args => Descriptor.leavesOf args
  | .declared number facts => [.declared number facts]
  | .leaf form => [.leaf form]

/-- The leaves of types one after the other. -/
def Descriptor.leavesOf : List Descriptor → List Descriptor
  | [] => []
  | t :: rest => t.leaves ++ Descriptor.leavesOf rest

end

theorem Descriptor.mem_leavesOf {args : List Descriptor} {l : Descriptor} :
    l ∈ Descriptor.leavesOf args ↔ ∃ a ∈ args, l ∈ a.leaves := by
  induction args with
  | nil => simp [Descriptor.leavesOf]
  | cons a args ih =>
    rw [Descriptor.leavesOf, List.mem_append, ih, List.exists_mem_cons_iff]

/-! ## Accepted bases -/

section Pure
variable {p : Policy} {v : View Id}

theorem mem_of_mem_addAccepted {found : TypeSet} {t x : Descriptor}
    (h : x ∈ (addAccepted p v found t).run.members) :
    x ∈ found.members ∨ x = t ∧ (p.accepts v t).run = true := by
  unfold addAccepted at h
  change x ∈ (Id.run (if (p.accepts v t).run = true then pure (found.insert t) else pure found)).members at h
  split at h
  · rename_i ha
    rcases TypeSet.mem_of_mem_insert h with h | rfl
    · exact Or.inl h
    · exact Or.inr ⟨rfl, ha⟩
  · exact Or.inl h

theorem mem_addAccepted_of_mem {found : TypeSet} (t : Descriptor) {x : Descriptor}
    (h : x ∈ found.members) : x ∈ (addAccepted p v found t).run.members := by
  unfold addAccepted
  change x ∈ (Id.run (if (p.accepts v t).run = true then pure (found.insert t) else pure found)).members
  split
  · exact TypeSet.mem_insert_of_mem t h
  · exact h

theorem mem_of_mem_surfaceBases {t : Descriptor} {found : TypeSet} {x : Descriptor}
    (h : x ∈ (surfaceBases p v t found).run.members) :
    x ∈ found.members ∨ x ∈ (v.bases t).run ∧ (p.accepts v x).run = true := by
  refine foldlM_keeps (P := fun found' : TypeSet => ∀ x ∈ found'.members,
    x ∈ found.members ∨ x ∈ (v.bases t).run ∧ (p.accepts v x).run = true)
    (fun found' hfound base hbase x hx => ?_) (fun x hx => Or.inl hx) x h
  rcases mem_of_mem_addAccepted hx with hx | ⟨rfl, ha⟩
  · exact hfound x hx
  · exact Or.inr ⟨hbase, ha⟩

theorem mem_surfaceBases_of_mem (t : Descriptor) {found : TypeSet} {x : Descriptor}
    (h : x ∈ found.members) : x ∈ (surfaceBases p v t found).run.members :=
  foldlM_keeps (P := fun found' : TypeSet => x ∈ found'.members)
    (fun _ hx base _ => mem_addAccepted_of_mem base hx) h

/-! ## What is found -/

/-- An accepted type that is a leaf or a base of one. -/
structure NearLeaf (p : Policy) (v : View Id) (leaves : List Descriptor) (x : Descriptor) : Prop where
  accepted : (p.accepts v x).run = true
  near : ∃ l ∈ leaves, x = l ∨ x ∈ (v.bases l).run

theorem NearLeaf.mono {leaves more : List Descriptor} {x : Descriptor} (h : NearLeaf p v leaves x)
    (hm : ∀ l ∈ leaves, l ∈ more) : NearLeaf p v more x := by
  obtain ⟨l, hl, hx⟩ := h.near
  exact ⟨h.accepted, l, hm l hl, hx⟩

theorem accepts_eq (t : Descriptor) :
    (p.accepts v t).run = ((p.isModel v t).run && !p.isExcluded t) := rfl

/-- What is found at a leaf itself. -/
theorem nearLeaf_of_mem_leaf {t x : Descriptor}
    (h : x ∈ (Id.run (if p.isExcluded t = true then pure TypeSet.empty
      else surfaceBases p v t (if (p.isModel v t).run = true then TypeSet.empty.insert t
        else .empty))).members) : NearLeaf p v [t] x := by
  split at h
  · cases h
  · rename_i hex
    rcases mem_of_mem_surfaceBases h with hx | ⟨hb, ha⟩
    · split at hx
      · rename_i hm
        rcases TypeSet.mem_of_mem_insert hx with hx | rfl
        · cases hx
        · refine ⟨?_, x, List.mem_singleton_self x, Or.inl rfl⟩
          rw [accepts_eq, hm, eq_false_of_ne_true hex]
          rfl
      · cases hx
    · exact ⟨ha, t, List.mem_singleton_self t, Or.inr hb⟩

mutual

theorem nearLeaf_of_mem_referenced : ∀ (t : Descriptor) {x : Descriptor},
    x ∈ (referenced p v t).run.members → NearLeaf p v t.leaves x
  | .array key element unique, x, h => by
    rw [referenced] at h
    split at h
    · cases h
    · rw [Descriptor.leaves]
      exact nearLeaf_of_mem_referenced element h
  | .generic key origin args, x, h => by
    rw [referenced] at h
    split at h
    · cases h
    · rw [Descriptor.leaves]
      exact (nearLeaf_of_mem_referencedArgs args h).resolve_left List.not_mem_nil
  | .declared n facts, x, h => by
    simp only [referenced] at h
    rw [Descriptor.leaves]
    exact nearLeaf_of_mem_leaf h
  | .leaf form, x, h => by
    simp only [referenced] at h
    rw [Descriptor.leaves]
    exact nearLeaf_of_mem_leaf h

theorem nearLeaf_of_mem_referencedArgs : ∀ (args : List Descriptor) {found : TypeSet} {x : Descriptor},
    x ∈ (referencedArgs p v args found).run.members →
      x ∈ found.members ∨ NearLeaf p v (Descriptor.leavesOf args) x
  | [], found, x, h => Or.inl h
  | arg :: rest, found, x, h => by
    rw [referencedArgs] at h
    rw [Descriptor.leavesOf]
    have hrest : ∀ {found' : TypeSet}, x ∈ (referencedArgs p v rest found').run.members →
        x ∈ found'.members ∨ NearLeaf p v (arg.leaves ++ Descriptor.leavesOf rest) x := fun hx =>
      (nearLeaf_of_mem_referencedArgs rest hx).imp id fun h => h.mono fun _ => List.mem_append_right _
    change x ∈ (Id.run (if (followsArgument p v arg).run = true then (_ : Id TypeSet) else _)).members at h
    split at h
    · rcases hrest h with hx | hx
      · rcases TypeSet.mem_of_mem_insertAll hx with hx | hx
        · exact Or.inl hx
        · exact Or.inr ((nearLeaf_of_mem_referenced arg hx).mono fun _ => List.mem_append_left _)
      · exact Or.inr hx
    · exact hrest h

end

end Pure

namespace Catalogue

variable {loads : List ModuleFacts}

/-! ## Wrappers -/

theorem taskTypes_last : ∀ name ∈ taskTypes, name.toList.getLast? ≠ some ']' := by decide

theorem isExcluded_of_bracket (p : Policy) {t : Descriptor} (ht : t.tags = [])
    (hq : t.qualifiedName.toList.getLast? = some ']') : p.isExcluded t = false := by
  have hname : taskTypes.contains t.qualifiedName = false := by
    rw [← Bool.not_eq_true, List.contains_iff_mem]
    exact fun hm => taskTypes_last _ hm hq
  rw [Policy.isExcluded, ht, hname]
  rfl

theorem last_bracket (s : String) : (s ++ "]").toList.getLast? = some ']' := by
  rw [String.toList_append]
  exact List.getLast?_concat

theorem isExcluded_array (p : Policy) {key : String} {element : Descriptor} {unique : Bool}
    (h : Current loads (.array key element unique)) :
    p.isExcluded (.array key element unique) = false := by
  cases h with
  | array hk _ _ =>
    refine isExcluded_of_bracket p rfl ?_
    rw [Descriptor.qualifiedName, hk, arrayKey]
    exact last_bracket _

theorem isExcluded_generic (p : Policy) {key origin : String} {args : List Descriptor}
    (h : Current loads (.generic key origin args)) : p.isExcluded (.generic key origin args) = false := by
  cases h with
  | generic hk _ _ =>
    refine isExcluded_of_bracket p rfl ?_
    rw [Descriptor.qualifiedName, hk, genericKey]
    exact last_bracket _

/-! ## Accepted leaves -/

theorem current_of_mem_leaves : ∀ {t : Descriptor}, Current loads t → ∀ l ∈ t.leaves, Current loads l := by
  intro t ht
  induction ht with
  | declared h =>
    intro l hl
    rw [Descriptor.leaves, List.mem_singleton] at hl
    rw [hl]
    exact Current.declared h
  | leaf h =>
    intro l hl
    rw [leafOfName, Descriptor.leaves, List.mem_singleton] at hl
    rw [hl]
    exact Current.leaf h
  | array _ _ _ ih =>
    rw [Descriptor.leaves]
    exact ih
  | generic _ _ _ ih =>
    intro l hl
    rw [Descriptor.leaves, Descriptor.mem_leavesOf] at hl
    obtain ⟨a, ha, hl⟩ := hl
    exact ih a ha l hl

theorem current_of_mem_referenced {c : Catalogue} (h : Resolved loads c.resolved) (p : Policy)
    {t x : Descriptor} (ht : Current loads t) (hx : x ∈ (referenced p c.reading t).run.members) :
    Current loads x := by
  obtain ⟨l, hl, he | hb⟩ := (nearLeaf_of_mem_referenced t hx).near
  · rw [he]
    exact current_of_mem_leaves ht l hl
  · exact current_of_mem_bases h hb

theorem accepts_parts {p : Policy} {v : View Id} {t : Descriptor} (h : (p.accepts v t).run = true) :
    (p.isModel v t).run = true ∧ p.isExcluded t = false := by
  rw [accepts_eq, Bool.and_eq_true, Bool.not_eq_true'] at h
  exact h

/-- An argument with an accepted leaf is followed. -/
theorem followsArgument_of_leaf {p : Policy} {c : Catalogue} {arg l : Descriptor} (hl : l ∈ arg.leaves)
    (ha : (p.accepts c.reading l).run = true) : (followsArgument p c.reading arg).run = true := by
  have hself : arg = l → (followsArgument p c.reading arg).run = true := by
    rintro rfl
    change Id.run (if (p.isModel c.reading arg).run = true then pure true else _) = true
    rw [if_pos (accepts_parts ha).1]
    rfl
  cases arg with
  | declared n facts =>
    rw [Descriptor.leaves, List.mem_singleton] at hl
    exact hself hl.symm
  | leaf form =>
    rw [Descriptor.leaves, List.mem_singleton] at hl
    exact hself hl.symm
  | array _ _ _ => rfl
  | generic _ _ _ => rfl

theorem mem_keys_referencedArgs (p : Policy) (v : View Id) (args : List Descriptor) {found : TypeSet}
    {k : String} (h : k ∈ found.keys) : k ∈ (referencedArgs p v args found).run.keys := by
  induction args generalizing found with
  | nil => exact h
  | cons arg rest ih =>
    rw [referencedArgs]
    change k ∈ (Id.run (if (followsArgument p v arg).run = true then (_ : Id TypeSet) else _)).keys
    split
    · exact ih (TypeSet.mem_keys_insertAll.mpr (Or.inl h))
    · exact ih h

/-- An accepted leaf of a leaf is the type itself, and found. -/
theorem key_mem_leaf {p : Policy} {v : View Id} {t : Descriptor} (ha : (p.accepts v t).run = true) :
    t.key ∈ (Id.run (if p.isExcluded t = true then pure TypeSet.empty
      else surfaceBases p v t (if (p.isModel v t).run = true then TypeSet.empty.insert t
        else .empty))).keys := by
  obtain ⟨hm, hex⟩ := accepts_parts ha
  rw [if_neg (by rw [hex]; exact Bool.false_ne_true), if_pos hm]
  exact TypeSet.key_mem_keys (mem_surfaceBases_of_mem t (List.mem_singleton_self t))

mutual

theorem key_mem_referenced (p : Policy) {c : Catalogue} : ∀ (t : Descriptor), Current loads t →
    ∀ l ∈ t.leaves, (p.accepts c.reading l).run = true → l.key ∈ (referenced p c.reading t).run.keys
  | .array key element unique, ht, l, hl, ha => by
    rw [referenced, isExcluded_array p ht, if_neg Bool.false_ne_true]
    rw [Descriptor.leaves] at hl
    cases ht with
    | array _ _ he => exact key_mem_referenced p element he l hl ha
  | .generic key origin args, ht, l, hl, ha => by
    rw [referenced, isExcluded_generic p ht, if_neg Bool.false_ne_true]
    rw [Descriptor.leaves] at hl
    cases ht with
    | generic _ _ hargs => exact key_mem_referencedArgs p args hargs .empty l hl ha
  | .declared n facts, ht, l, hl, ha => by
    simp only [referenced]
    rw [Descriptor.leaves, List.mem_singleton] at hl
    rw [hl] at ha ⊢
    exact key_mem_leaf ha
  | .leaf form, ht, l, hl, ha => by
    simp only [referenced]
    rw [Descriptor.leaves, List.mem_singleton] at hl
    rw [hl] at ha ⊢
    exact key_mem_leaf ha

theorem key_mem_referencedArgs (p : Policy) {c : Catalogue} : ∀ (args : List Descriptor),
    (∀ a ∈ args, Current loads a) → ∀ (found : TypeSet), ∀ l ∈ Descriptor.leavesOf args,
      (p.accepts c.reading l).run = true → l.key ∈ (referencedArgs p c.reading args found).run.keys
  | [], _, _, l, hl, _ => by
    rw [Descriptor.leavesOf] at hl
    cases hl
  | arg :: rest, hargs, found, l, hl, ha => by
    have hrest : ∀ a ∈ rest, Current loads a := fun a h => hargs a (List.mem_cons_of_mem _ h)
    rw [referencedArgs]
    rw [Descriptor.leavesOf] at hl
    change l.key ∈ (Id.run (if (followsArgument p c.reading arg).run = true then
      (_ : Id TypeSet) else _)).keys
    rcases List.mem_append.mp hl with hl | hl
    · rw [if_pos (followsArgument_of_leaf hl ha)]
      apply mem_keys_referencedArgs
      have harg := key_mem_referenced p arg (hargs arg (List.mem_cons_self ..)) l hl ha
      exact TypeSet.mem_keys_insertAll.mpr (Or.inr harg)
    · split
      · exact key_mem_referencedArgs p rest hrest _ l hl ha
      · exact key_mem_referencedArgs p rest hrest _ l hl ha

end

end Catalogue
end ModelReach
