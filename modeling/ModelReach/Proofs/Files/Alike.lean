import Mathlib.Data.List.Forall2
import ModelReach.Proofs.Text.Sorting

/-! Two computations or two lists side by side, one of them made in the other's place. -/
namespace ModelReach.Files
set_option autoImplicit false

/-! ## Two computations side by side -/

/-- Two computations fail together or give what is related, unless a fault of one of them is excused. -/
inductive Alike {ε α β : Type} (excused : ε → Prop) (R : α → β → Prop) : Except ε α → Except ε β → Prop
  | left {fault : ε} (h : excused fault) (y : Except ε β) : Alike excused R (.error fault) y
  | right (x : Except ε α) {fault : ε} (h : excused fault) : Alike excused R x (.error fault)
  | failed (fault fault' : ε) : Alike excused R (.error fault) (.error fault')
  | given {a : α} {b : β} (h : R a b) : Alike excused R (.ok a) (.ok b)

section Alike
variable {ε ζ α β γ δ : Type} {excused : ε → Prop} {R : α → β → Prop} {S : γ → δ → Prop}

theorem Alike.bind {x : Except ε α} {y : Except ε β} {f : α → Except ε γ} {g : β → Except ε δ}
    (h : Alike excused R x y) (hnext : ∀ a b, R a b → Alike excused S (f a) (g b)) :
    Alike excused S (x.bind f) (y.bind g) := by
  cases h with
  | left h y => exact Alike.left h _
  | right x h => exact Alike.right _ h
  | failed fault fault' => exact Alike.failed fault fault'
  | given h => exact hnext _ _ h

theorem Alike.map {x : Except ε α} {y : Except ε β} {f : α → γ} {g : β → δ} (h : Alike excused R x y)
    (hmap : ∀ a b, R a b → S (f a) (g b)) : Alike excused S (x.map f) (y.map g) := by
  cases h with
  | left h y => exact Alike.left h _
  | right x h => exact Alike.right _ h
  | failed fault fault' => exact Alike.failed fault fault'
  | given h => exact Alike.given (hmap _ _ h)

theorem Alike.mapError {excused' : ζ → Prop} {f : ε → ζ} {x : Except ε α} {y : Except ε β}
    (h : Alike excused R x y) (hf : ∀ fault, excused fault → excused' (f fault)) :
    Alike excused' R (x.mapError f) (y.mapError f) := by
  cases h with
  | left h y => exact Alike.left (hf _ h) _
  | right x h => exact Alike.right _ (hf _ h)
  | failed fault fault' => exact Alike.failed _ _
  | given h => exact Alike.given h

theorem Alike.mapM {l : List α} {l' : List β} {f : α → Except ε γ} {g : β → Except ε δ}
    (hl : List.Forall₂ R l l') (h : ∀ a b, R a b → Alike excused S (f a) (g b)) :
    Alike excused (List.Forall₂ S) (l.mapM f) (l'.mapM g) := by
  induction hl with
  | nil => exact Alike.given List.Forall₂.nil
  | cons hab _ ih =>
    rw [List.mapM_cons, List.mapM_cons]
    exact (h _ _ hab).bind fun _ _ hc => ih.bind fun _ _ hcs => Alike.given (List.Forall₂.cons hc hcs)

/-- What is gathered along related lists is related. -/
theorem Alike.gather {l : List α} {l' : List β} {f : α → Except ε (List γ)} {g : β → Except ε (List δ)}
    (hl : List.Forall₂ R l l') (h : ∀ a b, R a b → Alike excused (List.Forall₂ S) (f a) (g b)) :
    Alike excused (List.Forall₂ S) ((l.mapM f).map List.flatten) ((l'.mapM g).map List.flatten) :=
  (Alike.mapM hl h).map fun _ _ hlists => List.rel_flatten hlists

/-- If no fault is excused that has come up, both give something or neither does. -/
theorem Alike.resolve {x : Except ε α} {y : Except ε β} (h : Alike excused R x y)
    (hx : ∀ fault, excused fault → x ≠ .error fault) (hy : ∀ fault, excused fault → y ≠ .error fault) :
    (∃ a b, x = .ok a ∧ y = .ok b ∧ R a b) ∨ ∃ fault fault', x = .error fault ∧ y = .error fault' := by
  cases h with
  | left h y => exact absurd rfl (hx _ h)
  | right x h => exact absurd rfl (hy _ h)
  | failed fault fault' => exact Or.inr ⟨fault, fault', rfl, rfl⟩
  | given h => exact Or.inl ⟨_, _, rfl, rfl, h⟩

end Alike

/-! ## Lists side by side -/

section Lists
variable {α β : Type} {R : α → β → Prop} {l : List α} {l' : List β}

theorem forall₂_filter {keep : α → Bool} {keep' : β → Bool} (hkeep : ∀ a b, R a b → keep a = keep' b)
    (h : List.Forall₂ R l l') : List.Forall₂ R (l.filter keep) (l'.filter keep') :=
  List.rel_filter (fun a b hab => iff_of_eq (congrArg (· = true) (hkeep a b hab))) h

/-- If equal elements correspond, they are left out together. -/
theorem forall₂_eraseDups [BEq α] [LawfulBEq α] [BEq β] [LawfulBEq β]
    (hR : ∀ a a' b b', R a b → R a' b' → (a = a' ↔ b = b')) {l : List α} {l' : List β}
    (h : List.Forall₂ R l l') : List.Forall₂ R l.eraseDups l'.eraseDups := by
  match l, l', h with
  | [], [], .nil => exact List.Forall₂.nil
  | a :: l, b :: l', .cons hab h =>
    rw [List.eraseDups_cons, List.eraseDups_cons]
    refine List.Forall₂.cons hab (forall₂_eraseDups hR (List.rel_filter (fun a' b' hab' => ?_) h))
    change (!a' == a) = true ↔ (!b' == b) = true
    rw [Bool.not_eq_true', Bool.not_eq_true', beq_eq_false_iff_ne, beq_eq_false_iff_ne]
    exact not_congr (hR a' a b' b hab' hab)
termination_by l.length
decreasing_by exact Nat.lt_succ_of_le (List.length_filter_le _ _)

theorem exists_pairs_of_forall₂ (h : List.Forall₂ R l l') :
    ∃ pairs : List (α × β), pairs.map Prod.fst = l ∧ pairs.map Prod.snd = l' ∧ ∀ z ∈ pairs, R z.1 z.2 := by
  induction h with
  | nil => exact ⟨[], rfl, rfl, fun z hz => absurd hz List.not_mem_nil⟩
  | @cons a b _ _ hab _ ih =>
    obtain ⟨pairs, rfl, rfl, hpairs⟩ := ih
    exact ⟨(a, b) :: pairs, rfl, rfl, List.forall_mem_cons.mpr ⟨hab, hpairs⟩⟩

theorem forall₂_of_pairs {pairs : List (α × β)} (h : ∀ z ∈ pairs, R z.1 z.2) :
    List.Forall₂ R (pairs.map Prod.fst) (pairs.map Prod.snd) := by
  rw [List.forall₂_map_left_iff, List.forall₂_map_right_iff, List.forall₂_same]
  exact h

/-- Lists are sorted alike by names that are the same on both sides. -/
theorem forall₂_mergeSort {name : α → String} {name' : β → String} (hname : ∀ a b, R a b → name a = name' b)
    (h : List.Forall₂ R l l') : List.Forall₂ R (l.mergeSort fun a b => name a ≤ name b)
      (l'.mergeSort fun a b => name' a ≤ name' b) := by
  obtain ⟨pairs, rfl, rfl, hpairs⟩ := exists_pairs_of_forall₂ h
  rw [← List.map_mergeSort (r := fun z w => decide (name z.1 ≤ name w.1)) fun _ _ _ _ => rfl,
    ← List.map_mergeSort (r := fun z w => decide (name z.1 ≤ name w.1)) fun z hz w hw => by
      rw [hname _ _ (hpairs z hz), hname _ _ (hpairs w hw)]]
  exact forall₂_of_pairs fun z hz => hpairs z ((List.mergeSort_perm _ _).mem_iff.mp hz)

end Lists

end ModelReach.Files
