import Mathlib.Data.List.Nodup
import Mathlib.Logic.Relation
import Mathlib.Order.Basic

/-! Opening the names above a name, those next to one before it and the last of them first. A name seen before is
passed over, so that each is opened once, whatever cycles there are; and it is done with only after all names next to
it, save those that it is itself next to, directly or not. -/
namespace ModelReach
set_option autoImplicit false

/-- The names opened so far, and those that have been done with, in this order. -/
structure Opened where
  seen : List String
  done : List String

/-- Open a name: first the names next to it, the last one first, then the name itself. -/
def openName (next : String → List String) : Nat → Opened → String → Opened
  | 0, s, _ => s
  | n + 1, s, k =>
    if s.seen.contains k then s
    else
      let above := (next k).foldr (fun m s => openName next n s m) ⟨k :: s.seen, s.done⟩
      ⟨above.seen, above.done ++ [k]⟩

/-- Open names one after the other, the last one first. -/
def openNames (next : String → List String) (n : Nat) (names : List String) (s : Opened) : Opened :=
  names.foldr (fun m s => openName next n s m) s

/-- There is a way from one name to another. -/
def Reaches (next : String → List String) : String → String → Prop := Relation.ReflTransGen fun k m => m ∈ next k

variable {next : String → List String}

theorem openName_of_mem (n : Nat) {s : Opened} {k : String} (h : k ∈ s.seen) : openName next n s k = s := by
  cases n with
  | zero => rfl
  | succ n => rw [openName, if_pos (List.contains_iff_mem.mpr h)]

theorem openName_of_notMem (n : Nat) {s : Opened} {k : String} (h : k ∉ s.seen) :
    openName next (n + 1) s k =
      let above := openNames next n (next k) ⟨k :: s.seen, s.done⟩
      ⟨above.seen, above.done ++ [k]⟩ := by
  rw [openName, if_neg fun hc => h (List.contains_iff_mem.mp hc)]
  rfl

/-! ## What has been done stays -/

/-- A state has gone on to another one. -/
structure Opened.Before (s s' : Opened) : Prop where
  seen : s.seen ⊆ s'.seen
  done : s.done <+: s'.done

theorem Opened.Before.refl (s : Opened) : s.Before s := ⟨List.Subset.refl _, List.prefix_rfl⟩

theorem Opened.Before.trans {a b c : Opened} (h₁ : a.Before b) (h₂ : b.Before c) : a.Before c :=
  ⟨List.Subset.trans h₁.seen h₂.seen, h₁.done.trans h₂.done⟩

theorem before_openNames {n : Nat} (h : ∀ s k, Opened.Before s (openName next n s k)) (names : List String) (s : Opened) :
    s.Before (openNames next n names s) := by
  induction names with
  | nil => exact Opened.Before.refl s
  | cons m names ih => exact ih.trans (h _ m)

theorem before_openName (n : Nat) (s : Opened) (k : String) : s.Before (openName next n s k) := by
  induction n generalizing s k with
  | zero => exact Opened.Before.refl s
  | succ n ih =>
    by_cases hk : k ∈ s.seen
    · rw [openName_of_mem _ hk]
      exact Opened.Before.refl s
    · rw [openName_of_notMem _ hk]
      have habove := before_openNames ih (next k) ⟨k :: s.seen, s.done⟩
      exact ⟨fun m hm => habove.seen (List.mem_cons_of_mem k hm), habove.done.trans (List.prefix_append _ _)⟩

/-- What is opened does not depend on what was done before. -/
theorem openName_done (n : Nat) (seen done : List String) (k : String) : openName next n ⟨seen, done⟩ k =
    ⟨(openName next n ⟨seen, []⟩ k).seen, done ++ (openName next n ⟨seen, []⟩ k).done⟩ := by
  induction n generalizing seen done k with
  | zero => simp [openName]
  | succ n ih =>
    have hnames : ∀ names, openNames next n names ⟨k :: seen, done⟩ =
        ⟨(openNames next n names ⟨k :: seen, []⟩).seen, done ++ (openNames next n names ⟨k :: seen, []⟩).done⟩ := by
      intro names
      induction names with
      | nil => simp [openNames]
      | cons m names ihnames =>
        change openName next n (openNames next n names ⟨k :: seen, done⟩) m =
          ⟨(openName next n (openNames next n names ⟨k :: seen, []⟩) m).seen,
            done ++ (openName next n (openNames next n names ⟨k :: seen, []⟩) m).done⟩
        rw [ihnames, ih, ih (openNames next n names ⟨k :: seen, []⟩).seen
          (openNames next n names ⟨k :: seen, []⟩).done m, List.append_assoc]
    by_cases hk : k ∈ seen
    · rw [openName_of_mem _ hk, openName_of_mem _ hk, List.append_nil]
    · rw [openName_of_notMem _ hk, openName_of_notMem _ hk]
      dsimp only
      rw [hnames, List.append_assoc]

/-! ## Names left -/

/-- How many of some names have not been seen. -/
def unseen (names seen : List String) : Nat := (names.filter fun k => !seen.contains k).length

theorem unseen_le (names seen : List String) : unseen names seen ≤ names.length := List.length_filter_le _ _

theorem unseen_mono {names seen seen' : List String} (h : seen ⊆ seen') : unseen names seen' ≤ unseen names seen := by
  refine (List.monotone_filter_right names fun k hk => ?_).length_le
  rw [Bool.not_eq_true', ← Bool.not_eq_true, List.contains_iff_mem] at hk ⊢
  exact fun hm => hk (h hm)

theorem unseen_cons {names seen : List String} {k : String} (h : k ∈ names) (hk : k ∉ seen) :
    unseen names (k :: seen) + 1 ≤ unseen names seen := by
  have hfilter : (names.filter fun m => !(k :: seen).contains m) =
      (names.filter fun m => !seen.contains m).filter fun m => !(m == k) := by
    rw [List.filter_filter]
    refine List.filter_congr fun m _ => ?_
    rw [List.contains_cons, Bool.not_or]
  rw [unseen, unseen, hfilter]
  refine List.length_filter_lt_length_iff_exists.mpr ⟨k, ?_, by simp⟩
  exact List.mem_filter.mpr ⟨h, by simp [hk]⟩

theorem mem_of_unseen {names seen : List String} {k : String} (h : k ∈ names) (h0 : unseen names seen = 0) :
    k ∈ seen := by
  by_contra hk
  have := unseen_cons h hk
  omega

theorem unseen_openNames (next : String → List String) (names l : List String) (n : Nat) (seen done : List String) :
    unseen names (openNames next n l ⟨seen, done⟩).seen ≤ unseen names seen :=
  unseen_mono (before_openNames (before_openName n) l ⟨seen, done⟩).seen

/-! ## Rounds -/

/-- Names from which only some names can be reached. -/
structure Within (next : String → List String) (names : List String) : Prop where
  next : ∀ k ∈ names, ∀ m ∈ next k, m ∈ names

section Rounds
variable {names : List String} (hw : Within next names)
include hw

/-- With as many rounds as there are names left, another round changes nothing. -/
theorem openName_succ {n : Nat} {s : Opened} {k : String} (hk : k ∈ names) (hn : unseen names s.seen ≤ n) :
    openName next (n + 1) s k = openName next n s k := by
  induction n generalizing s k with
  | zero =>
    have hseen := mem_of_unseen hk (Nat.le_zero.mp hn)
    rw [openName_of_mem _ hseen, openName_of_mem _ hseen]
  | succ n ih =>
    by_cases hseen : k ∈ s.seen
    · rw [openName_of_mem _ hseen, openName_of_mem _ hseen]
    · have hleft := unseen_cons hk hseen
      have hnames : ∀ l ⊆ next k, openNames next (n + 1) l ⟨k :: s.seen, s.done⟩ =
          openNames next n l ⟨k :: s.seen, s.done⟩ := by
        intro l hl
        induction l with
        | nil => rfl
        | cons m l ihl =>
          have hm : m ∈ names := hw.next k hk m (hl (List.mem_cons_self ..))
          have hmono := unseen_openNames next names l n (k :: s.seen) s.done
          change openName next (n + 1) (openNames next (n + 1) l ⟨k :: s.seen, s.done⟩) m = _
          rw [ihl fun x hx => hl (List.mem_cons_of_mem m hx)]
          exact ih hm (by omega)
      rw [openName_of_notMem _ hseen, openName_of_notMem _ hseen, hnames _ (List.Subset.refl _)]

theorem openName_rounds {n n' : Nat} {s : Opened} {k : String} (hk : k ∈ names) (hn : unseen names s.seen ≤ n)
    (hle : n ≤ n') : openName next n' s k = openName next n s k := by
  induction hle with
  | refl => rfl
  | step hle ih => rw [openName_succ hw hk (Nat.le_trans hn hle), ih]

end Rounds

/-! ## What is done with -/

theorem reaches_of_mem_done (n : Nat) (s : Opened) (k : String) :
    ∀ m ∈ (openName next n s k).done, m ∈ s.done ∨ Reaches next k m := by
  induction n generalizing s k with
  | zero => exact fun m hm => Or.inl hm
  | succ n ih =>
    by_cases hseen : k ∈ s.seen
    · rw [openName_of_mem _ hseen]
      exact fun m hm => Or.inl hm
    · have hnames : ∀ l ⊆ next k, ∀ m ∈ (openNames next n l ⟨k :: s.seen, s.done⟩).done,
          m ∈ s.done ∨ Reaches next k m := by
        intro l hl
        induction l with
        | nil => exact fun m hm => Or.inl hm
        | cons x l ihl =>
          intro m hm
          rcases ih _ x m hm with hm | hm
          · exact ihl (fun y hy => hl (List.mem_cons_of_mem x hy)) m hm
          · exact Or.inr (hm.head (hl (List.mem_cons_self ..)))
      rw [openName_of_notMem _ hseen]
      intro m hm
      rcases List.mem_append.mp hm with hm | hm
      · exact hnames _ (List.Subset.refl _) m hm
      · rw [List.mem_singleton.mp hm]
        exact Or.inr Relation.ReflTransGen.refl

/-- What holds between two steps; `pending` are the names that have been opened and not been done with. -/
structure Opening (next : String → List String) (pending : List String) (s : Opened) : Prop where
  seen_iff : ∀ k, k ∈ s.seen ↔ k ∈ pending ∨ k ∈ s.done
  nodup : s.done.Nodup
  apart : ∀ k ∈ pending, k ∉ s.done
  closed : ∀ k ∈ s.done, ∀ m ∈ next k, m ∈ s.seen
  ordered : ∀ a k b, s.done = a ++ k :: b → ∀ m ∈ next k, m ∈ a ∨ Reaches next m k

section Opening
variable {pending : List String} {s : Opened} {k : String}

theorem Opening.init : Opening next [] ⟨[], []⟩ where
  seen_iff k := (or_self_iff (a := k ∈ ([] : List String))).symm
  nodup := List.nodup_nil
  apart _ h := absurd h List.not_mem_nil
  closed _ h := absurd h List.not_mem_nil
  ordered a k b h := absurd h.symm (List.append_ne_nil_of_right_ne_nil a (List.cons_ne_nil k b))

theorem Opening.enter (h : Opening next pending s) (hk : k ∉ s.seen) :
    Opening next (k :: pending) ⟨k :: s.seen, s.done⟩ where
  seen_iff m := by rw [List.mem_cons, List.mem_cons, h.seen_iff, or_assoc]
  nodup := h.nodup
  apart m hm := by
    rcases List.mem_cons.mp hm with rfl | hm
    · exact fun hd => hk ((h.seen_iff m).mpr (Or.inr hd))
    · exact h.apart m hm
  closed m hm x hx := List.mem_cons_of_mem k (h.closed m hm x hx)
  ordered := h.ordered

/-- A name is done with when all names next to it have been seen; those still pending are on the way to it. -/
theorem Opening.leave (h : Opening next (k :: pending) s) (hk : k ∉ pending) (hnext : ∀ m ∈ next k, m ∈ s.seen)
    (hway : ∀ m ∈ pending, Reaches next m k) : Opening next pending ⟨s.seen, s.done ++ [k]⟩ where
  seen_iff m := by
    rw [h.seen_iff, List.mem_cons, List.mem_append, List.mem_singleton]
    tauto
  nodup := by
    have hd := h.apart k (List.mem_cons_self ..)
    exact h.nodup.append (List.nodup_singleton k) (List.disjoint_singleton.mpr hd)
  apart m hm hd := by
    rcases List.mem_append.mp hd with hd | hd
    · exact h.apart m (List.mem_cons_of_mem k hm) hd
    · exact hk (List.mem_singleton.mp hd ▸ hm)
  closed m hm := by
    rcases List.mem_append.mp hm with hm | hm
    · exact h.closed m hm
    · rw [List.mem_singleton.mp hm]
      exact hnext
  ordered a m b he x hx := by
    rcases List.eq_nil_or_concat b with rfl | ⟨b, y, rfl⟩
    · obtain ⟨rfl, hm⟩ := List.append_inj' he rfl
      obtain rfl : k = m := List.singleton_injective hm
      rcases (h.seen_iff x).mp (hnext x hx) with hp | hd
      · rcases List.mem_cons.mp hp with rfl | hp
        · exact Or.inr Relation.ReflTransGen.refl
        · exact Or.inr (hway x hp)
      · exact Or.inl hd
    · rw [List.concat_eq_append, ← List.cons_append, ← List.append_assoc] at he
      exact h.ordered a m b (List.append_inj' he rfl).1 x hx

end Opening

/-- Opening a name keeps all this, and leaves the name seen. -/
theorem opening_openName {names : List String} (hw : Within next names) {n : Nat} {pending : List String} {s : Opened}
    {k : String} (h : Opening next pending s) (hk : k ∈ names) (hn : unseen names s.seen ≤ n)
    (hway : ∀ m ∈ pending, Reaches next m k) :
    Opening next pending (openName next n s k) ∧ k ∈ (openName next n s k).seen := by
  induction n generalizing pending s k with
  | zero => exact ⟨h, mem_of_unseen hk (Nat.le_zero.mp hn)⟩
  | succ n ih =>
    by_cases hseen : k ∈ s.seen
    · rw [openName_of_mem _ hseen]
      exact ⟨h, hseen⟩
    · have hleft := unseen_cons hk hseen
      have hpending : k ∉ pending := fun hp => hseen ((h.seen_iff k).mpr (Or.inl hp))
      have hnames : ∀ l ⊆ next k, Opening next (k :: pending) (openNames next n l ⟨k :: s.seen, s.done⟩) ∧
          ∀ m ∈ l, m ∈ (openNames next n l ⟨k :: s.seen, s.done⟩).seen := by
        intro l hl
        induction l with
        | nil => exact ⟨h.enter hseen, fun _ hm => absurd hm List.not_mem_nil⟩
        | cons x l ihl =>
          obtain ⟨hopening, hall⟩ := ihl fun y hy => hl (List.mem_cons_of_mem x hy)
          have hx : x ∈ next k := hl (List.mem_cons_self ..)
          have hmono := unseen_openNames next names l n (k :: s.seen) s.done
          obtain ⟨hopening, hseen⟩ := ih hopening (hw.next k hk x hx) (by omega) fun m hm => by
            rcases List.mem_cons.mp hm with rfl | hm
            · exact Relation.ReflTransGen.single hx
            · exact (hway m hm).tail hx
          refine ⟨hopening, fun m hm => ?_⟩
          rcases List.mem_cons.mp hm with rfl | hm
          · exact hseen
          · exact (before_openName n _ x).seen (hall m hm)
      obtain ⟨hopening, hall⟩ := hnames _ (List.Subset.refl _)
      rw [openName_of_notMem _ hseen]
      exact ⟨hopening.leave hpending hall hway, (hopening.seen_iff k).mpr (Or.inl (List.mem_cons_self ..))⟩

/-! ## The whole of what is above a name -/

/-- The names above a name, as they are done with, itself the last one. -/
def openedFrom (next : String → List String) (rounds : Nat) (k : String) : List String :=
  (openName next rounds ⟨[], []⟩ k).done

section OpenedFrom
variable {names : List String} (hw : Within next names) {rounds : Nat} {k : String} (hk : k ∈ names)
  (hr : names.length ≤ rounds)
include hw hk hr

theorem opening_openedFrom : Opening next [] (openName next rounds ⟨[], []⟩ k) ∧
    k ∈ (openName next rounds ⟨[], []⟩ k).seen :=
  opening_openName hw Opening.init hk (Nat.le_trans (unseen_le names []) hr) fun _ h => absurd h List.not_mem_nil

theorem nodup_openedFrom : (openedFrom next rounds k).Nodup := (opening_openedFrom hw hk hr).1.nodup

theorem mem_openedFrom (m : String) : m ∈ openedFrom next rounds k ↔ Reaches next k m := by
  obtain ⟨h, hseen⟩ := opening_openedFrom hw hk hr
  have hdone : ∀ m, m ∈ (openName next rounds ⟨[], []⟩ k).seen → m ∈ openedFrom next rounds k := fun m hm =>
    ((h.seen_iff m).mp hm).resolve_left List.not_mem_nil
  constructor
  · exact fun hm => (reaches_of_mem_done rounds ⟨[], []⟩ k m hm).resolve_left List.not_mem_nil
  · intro hm
    induction hm with
    | refl => exact hdone k hseen
    | tail _ hx ih => exact hdone _ (h.closed _ ih _ hx)

/-- Without cycles, what is above a name is done with before it. -/
theorem mem_before_of_mem_openedFrom
    (hacyclic : ∀ m, Reaches next k m → ¬ Relation.TransGen (fun k m => m ∈ next k) m m)
    {a b : List String} {m x : String} (he : openedFrom next rounds k = a ++ m :: b)
    (hx : Relation.TransGen (fun k m => m ∈ next k) m x) : x ∈ a := by
  obtain ⟨h, _⟩ := opening_openedFrom hw hk hr
  have hstep : ∀ a b m, openedFrom next rounds k = a ++ m :: b → ∀ x ∈ next m, x ∈ a := by
    intro a b m he x hx
    have hm : Reaches next k m := (mem_openedFrom hw hk hr m).mp (by rw [he]; simp)
    exact (h.ordered a m b he x hx).resolve_right fun hway => hacyclic m hm (Relation.TransGen.head' hx hway)
  induction hx with
  | single hx => exact hstep a b m he _ hx
  | tail _ hx ih =>
    obtain ⟨a₁, a₂, rfl⟩ := List.append_of_mem ih
    rw [List.append_assoc, List.cons_append] at he
    exact List.mem_append_left _ (hstep _ _ _ he _ hx)

end OpenedFrom

theorem openedFrom_eq_concat (next : String → List String) (rounds : Nat) (k : String) :
    ∃ above, openedFrom next (rounds + 1) k = above ++ [k] := by
  rw [openedFrom, openName_of_notMem _ List.not_mem_nil]
  exact ⟨_, rfl⟩

end ModelReach
