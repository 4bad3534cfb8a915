import Mathlib.Data.List.Dedup
import ModelReach.Proofs.Inheritance.Opening

/-! Walks up from a name, first to the first name next to it and all above that, then to the next. If no way up has a
cycle, opening names from the last on leaves them in the order of the walk turned round, each where it is met last. -/
namespace ModelReach
set_option autoImplicit false

/-! ## Last visits -/

/-- Without repetitions, what two lists hold is what only the first holds, then what the second holds. -/
theorem dedup_append_eq {α : Type} [DecidableEq α] (a b : List α) :
    (a ++ b).dedup = a.dedup.filter (fun x => x ∉ b) ++ b.dedup := by
  induction a with
  | nil => rfl
  | cons x a ih =>
    rw [List.cons_append]
    by_cases hx : x ∈ a ++ b
    · rw [List.dedup_cons_of_mem hx, ih]
      rcases List.mem_append.mp hx with hx | hx
      · rw [List.dedup_cons_of_mem hx]
      · by_cases ha : x ∈ a
        · rw [List.dedup_cons_of_mem ha]
        · rw [List.dedup_cons_of_notMem ha, List.filter_cons_of_neg (by simpa using hx)]
    · have hb : x ∉ b := fun h => hx (List.mem_append_right a h)
      rw [List.dedup_cons_of_notMem hx, ih, List.dedup_cons_of_notMem fun h => hx (List.mem_append_left b h),
        List.filter_cons_of_pos (by simpa using hb), List.cons_append]

theorem dedup_filter {α : Type} [DecidableEq α] (p : α → Bool) (l : List α) :
    (l.filter p).dedup = l.dedup.filter p := by
  induction l with
  | nil => rfl
  | cons x l ih =>
    by_cases hp : p x = true
    · rw [List.filter_cons_of_pos hp]
      by_cases hx : x ∈ l
      · rw [List.dedup_cons_of_mem hx, List.dedup_cons_of_mem (List.mem_filter.mpr ⟨hx, hp⟩), ih]
      · rw [List.dedup_cons_of_notMem hx, List.dedup_cons_of_notMem fun h => hx (List.mem_filter.mp h).1,
          List.filter_cons_of_pos hp, ih]
    · rw [List.filter_cons_of_neg hp, ih]
      by_cases hx : x ∈ l
      · rw [List.dedup_cons_of_mem hx]
      · rw [List.dedup_cons_of_notMem hx, List.filter_cons_of_neg hp]

/-! ## Walks -/

variable {next : String → List String}

/-- Every way up from a name ends within some steps. -/
def EndsWithin (next : String → List String) : Nat → String → Prop
  | 0, _ => False
  | n + 1, k => ∀ m ∈ next k, EndsWithin next n m

/-- A name, then all names above it, first those at and above the first name next to it. -/
def walk (next : String → List String) : Nat → String → List String
  | 0, _ => []
  | n + 1, k => k :: (next k).flatMap (walk next n)

/-- The names of a walk, each where it is met last. -/
def lastVisits (next : String → List String) (n : Nat) (k : String) : List String := (walk next n k).dedup

theorem EndsWithin.succ {n : Nat} {k : String} (h : EndsWithin next n k) : EndsWithin next (n + 1) k := by
  induction n generalizing k with
  | zero => exact h.elim
  | succ n ih => exact fun m hm => ih (h m hm)

theorem EndsWithin.above {n : Nat} {k m : String} (h : EndsWithin next (n + 1) k)
    (hm : Relation.TransGen (fun k m => m ∈ next k) k m) : EndsWithin next n m := by
  induction hm with
  | single hm => exact h _ hm
  | tail _ hm ih => exact ih.succ _ hm

theorem EndsWithin.reached {n : Nat} {k m : String} (h : EndsWithin next n k) (hm : Reaches next k m) :
    EndsWithin next n m := by
  rcases Relation.reflTransGen_iff_eq_or_transGen.mp hm with rfl | hm
  · exact h
  · exact EndsWithin.above h.succ hm

/-- A name from which all ways end is not above itself. -/
theorem EndsWithin.acyclic {n : Nat} {k : String} (h : EndsWithin next n k) :
    ¬ Relation.TransGen (fun k m => m ∈ next k) k k := by
  induction n with
  | zero => exact h.elim
  | succ n ih => exact fun hk => ih (h.above hk) hk

theorem EndsWithin.not_reaches {n : Nat} {k m : String} (h : EndsWithin next n k) (hm : m ∈ next k) :
    ¬ Reaches next m k := fun hk => h.acyclic (Relation.TransGen.head' hm hk)

theorem mem_walk {n : Nat} {k : String} (h : EndsWithin next n k) (x : String) :
    x ∈ walk next n k ↔ Reaches next k x := by
  induction n generalizing k with
  | zero => exact h.elim
  | succ n ih =>
    rw [walk, List.mem_cons, List.mem_flatMap]
    constructor
    · rintro (rfl | ⟨m, hm, hx⟩)
      · exact Relation.ReflTransGen.refl
      · exact ((ih (h m hm)).mp hx).head hm
    · intro hx
      rcases hx.cases_head with rfl | ⟨m, hm, hx⟩
      · exact Or.inl rfl
      · exact Or.inr ⟨m, hm, (ih (h m hm)).mpr hx⟩

theorem mem_walks {n : Nat} {k : String} (h : EndsWithin next (n + 1) k) {l : List String} (hl : l ⊆ next k)
    (x : String) : x ∈ l.flatMap (walk next n) ↔ ∃ m ∈ l, Reaches next m x := by
  rw [List.mem_flatMap]
  exact exists_congr fun m => and_congr_right fun hm => mem_walk (h m (hl hm)) x

/-- The name itself stands first. -/
theorem lastVisits_succ {n : Nat} {k : String} (h : EndsWithin next (n + 1) k) :
    lastVisits next (n + 1) k = k :: ((next k).flatMap (walk next n)).dedup := by
  rw [lastVisits, walk, List.dedup_cons_of_notMem]
  rw [mem_walks h (List.Subset.refl _)]
  rintro ⟨m, hm, hk⟩
  exact h.not_reaches hm hk

/-! ## Opening as a walk -/

/-- What is seen at or above a name is seen with all that is above it. -/
def SeenUpwards (next : String → List String) (seen : List String) (k : String) : Prop :=
  ∀ x ∈ seen, Reaches next k x → ∀ y, Reaches next x y → y ∈ seen

/-- Opening a name adds what a walk from it meets, from its end on, save what was seen before. -/
structure AddsWalk (s s' : Opened) (met : List String) : Prop where
  done : s'.done = s.done ++ (met.dedup.filter fun x => x ∉ s.seen).reverse
  seen : ∀ x, x ∈ s'.seen ↔ x ∈ s.seen ∨ x ∈ met

theorem AddsWalk.none (s : Opened) : AddsWalk s s [] where
  done := (List.append_nil s.done).symm
  seen _ := (or_iff_left List.not_mem_nil).symm

/-- What is met first is added last. -/
theorem AddsWalk.trans {a b c : Opened} {later first : List String} (h₁ : AddsWalk a b later) (h₂ : AddsWalk b c first) :
    AddsWalk a c (first ++ later) where
  done := by
    have hfirst : (first.dedup.filter fun x => x ∉ b.seen) =
        (first.dedup.filter fun x => x ∉ later).filter fun x => x ∉ a.seen := by
      rw [List.filter_filter]
      refine List.filter_congr fun x _ => ?_
      simp only [h₁.seen, not_or, Bool.decide_and]
    rw [h₂.done, h₁.done, dedup_append_eq, List.filter_append, List.reverse_append, hfirst, List.append_assoc]
  seen x := by rw [h₂.seen, h₁.seen, List.mem_append, or_assoc, or_comm (a := x ∈ later)]

/-- A name that was not met above itself is added after all that was. -/
theorem AddsWalk.leave {s s' : Opened} {met : List String} {k : String} (h : AddsWalk ⟨k :: s.seen, s.done⟩ s' met)
    (hk : k ∉ s.seen) (hmet : k ∉ met) : AddsWalk s ⟨s'.seen, s'.done ++ [k]⟩ (k :: met) where
  done := by
    have hrest : (met.dedup.filter fun x => x ∉ k :: s.seen) = met.dedup.filter fun x => x ∉ s.seen := by
      refine List.filter_congr fun x hx => ?_
      have hne : x ≠ k := fun he => hmet (he ▸ List.mem_dedup.mp hx)
      simp only [List.mem_cons, hne, false_or]
    rw [h.done, List.dedup_cons_of_notMem hmet, List.filter_cons_of_pos (by simpa using hk), List.reverse_cons, hrest,
      List.append_assoc]
  seen x := by
    rw [h.seen, List.mem_cons, List.mem_cons]
    tauto

theorem addsWalk_openName {n rounds : Nat} (hr : n ≤ rounds) {s : Opened} {k : String} (h : EndsWithin next n k)
    (hs : SeenUpwards next s.seen k) : AddsWalk s (openName next rounds s k) (walk next n k) := by
  induction n generalizing rounds s k with
  | zero => exact h.elim
  | succ n ih =>
    obtain ⟨rounds, rfl⟩ := Nat.exists_eq_add_one_of_ne_zero (Nat.ne_of_gt (Nat.lt_of_lt_of_le n.succ_pos hr))
    by_cases hk : k ∈ s.seen
    · have hall : ∀ x ∈ walk next (n + 1) k, x ∈ s.seen := fun x hx =>
        hs k hk Relation.ReflTransGen.refl x ((mem_walk h x).mp hx)
      have hnone : ((walk next (n + 1) k).dedup.filter fun x => x ∉ s.seen) = [] := by
        refine List.filter_eq_nil_iff.mpr fun x hx => ?_
        simpa using hall x (List.mem_dedup.mp hx)
      rw [openName_of_mem _ hk]
      refine ⟨by rw [hnone, List.reverse_nil, List.append_nil], fun x => ?_⟩
      exact (or_iff_left_of_imp (hall x)).symm
    · have hsteps : ∀ l ⊆ next k, AddsWalk ⟨k :: s.seen, s.done⟩ (openNames next rounds l ⟨k :: s.seen, s.done⟩)
          (l.flatMap (walk next n)) := by
        intro l hl
        induction l with
        | nil => exact AddsWalk.none _
        | cons b l ihl =>
          have hb : b ∈ next k := hl (List.mem_cons_self ..)
          have hrest : l ⊆ next k := fun m hm => hl (List.mem_cons_of_mem b hm)
          have habove := ihl hrest
          refine habove.trans (ih (Nat.le_of_succ_le_succ hr) (h b hb) fun x hx hway y hy => ?_)
          rw [habove.seen, List.mem_cons] at hx ⊢
          rcases hx with (rfl | hx) | hx
          · exact absurd hway (h.not_reaches hb)
          · exact Or.inl (Or.inr (hs x hx (hway.head hb) y hy))
          · rw [mem_walks h hrest] at hx ⊢
            obtain ⟨m, hm, hx⟩ := hx
            exact Or.inr ⟨m, hm, hx.trans hy⟩
      have hfresh : k ∉ (next k).flatMap (walk next n) := by
        rw [mem_walks h (List.Subset.refl _)]
        rintro ⟨m, hm, hway⟩
        exact h.not_reaches hm hway
      rw [openName_of_notMem _ hk]
      exact (hsteps _ (List.Subset.refl _)).leave hk hfresh

/-- The order in which all names at and above a name are done with. -/
theorem openedFrom_eq {names : List String} (hw : Within next names) {rounds n : Nat} {k : String} (hk : k ∈ names)
    (hr : names.length ≤ rounds) (h : EndsWithin next n k) :
    openedFrom next rounds k = (lastVisits next n k).reverse := by
  have hmore := openName_rounds hw (s := ⟨[], []⟩) hk (Nat.le_trans (unseen_le names []) hr) (Nat.le_max_left rounds n)
  have hadds := addsWalk_openName (s := ⟨[], []⟩) (Nat.le_max_right rounds n) h fun _ hx => absurd hx List.not_mem_nil
  rw [openedFrom, ← hmore, hadds.done, lastVisits]
  simp

/-! ## Fewer names -/

/-- A walk among some of the names is what a walk among all meets of them, if nothing is above the others. -/
theorem walk_filter {p : String → Bool} (hp : ∀ k, p k = false → next k = []) (n : Nat) {k : String} (hk : p k = true) :
    walk (fun k => (next k).filter p) n k = (walk next n k).filter p := by
  induction n generalizing k with
  | zero => rfl
  | succ n ih =>
    have hleaf : ∀ m, p m = false → (walk next n m).filter p = [] := by
      intro m hm
      cases n with
      | zero => rfl
      | succ n => simp [walk, hp m hm, hm]
    have hlist : ∀ l : List String, (l.filter p).flatMap (walk (fun k => (next k).filter p) n) =
        (l.flatMap (walk next n)).filter p := by
      intro l
      induction l with
      | nil => rfl
      | cons m l ihl =>
        rw [List.flatMap_cons, List.filter_append, ← ihl]
        by_cases hm : p m = true
        · rw [List.filter_cons_of_pos hm, List.flatMap_cons, ih hm]
        · rw [List.filter_cons_of_neg hm, hleaf m (eq_false_of_ne_true hm), List.nil_append]
    rw [walk, walk, List.filter_cons_of_pos hk, hlist]

theorem lastVisits_filter {p : String → Bool} (hp : ∀ k, p k = false → next k = []) (n : Nat) {k : String}
    (hk : p k = true) : lastVisits (fun k => (next k).filter p) n k = (lastVisits next n k).filter p := by
  rw [lastVisits, walk_filter hp n hk, dedup_filter, lastVisits]

theorem EndsWithin.filter {n : Nat} {k : String} (h : EndsWithin next n k) (p : String → Bool) :
    EndsWithin (fun k => (next k).filter p) n k := by
  induction n generalizing k with
  | zero => exact h
  | succ n ih => exact fun m hm => ih (h m (List.mem_filter.mp hm).1)

end ModelReach
