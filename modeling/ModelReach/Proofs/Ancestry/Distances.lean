import Mathlib.Order.Lattice.Nat
import Mathlib.Logic.Relation
import ModelReach.Proofs.Ancestry.Names

/-! Distances in the visit of all names above an origin. Each name that is met or waits in the queue is given the number
of steps in which it was come upon. These levels never fall along the visit, and the names that wait are on two levels
at most; so when nothing waits any more, the level of a name is its distance from the origin. -/
namespace ModelReach
set_option autoImplicit false

/-! ## Steps -/

section Steps
variable {α : Type} (step : α → α → Prop)

/-- One thing is reached from another in a number of steps. -/
inductive Steps (a : α) : Nat → α → Prop
  | none : Steps a 0 a
  | more {n : Nat} {b c : α} (h : Steps a n b) (hstep : step b c) : Steps a (n + 1) c

/-- The least number of steps from one thing to another; zero if there is no way. -/
noncomputable def distance (a b : α) : Nat := sInf {n | Steps step a n b}

variable {step} {a b : α}

theorem Steps.reflTransGen {n : Nat} (h : Steps step a n b) : Relation.ReflTransGen step a b := by
  induction h with
  | none => exact Relation.ReflTransGen.refl
  | more _ hstep ih => exact ih.tail hstep

theorem exists_steps (h : Relation.ReflTransGen step a b) : ∃ n, Steps step a n b := by
  induction h with
  | refl => exact ⟨0, Steps.none⟩
  | tail _ hstep ih =>
    obtain ⟨n, hn⟩ := ih
    exact ⟨n + 1, hn.more hstep⟩

/-- A way that no other one undercuts gives the distance. -/
theorem distance_eq {n : Nat} (h : Steps step a n b) (hleast : ∀ m, Steps step a m b → n ≤ m) :
    distance step a b = n :=
  le_antisymm (Nat.sInf_le h) (hleast _ (Nat.sInf_mem (s := {m | Steps step a m b}) ⟨n, h⟩))

end Steps

/-! ## Levels -/

section Levels
variable {next : String → List String} {origin : String}

/-- A name is next to another one. -/
def Next (next : String → List String) (m n : String) : Prop := n ∈ next m

/-- What holds between two rounds of a visit, for the names met so far, in the order in which they were met, and those
that wait, all with their levels. -/
structure Levels (next : String → List String) (origin : String) (met queue : List (Nat × String)) : Prop where
  steps : ∀ x ∈ met ++ queue, Steps (Next next) origin x.1 x.2
  rising : (met ++ queue).Pairwise fun x y => x.1 ≤ y.1
  near : ∀ x ∈ queue, ∀ y ∈ queue, y.1 ≤ x.1 + 1
  closed : ∀ x ∈ met, ∀ n ∈ next x.2, ∃ level ≤ x.1 + 1, (level, n) ∈ met ++ queue

/-- The names next to one on a level, on the level after it. -/
def oneAfter (next : String → List String) (x : Nat × String) : List (Nat × String) := (next x.2).map (x.1 + 1, ·)

theorem mem_oneAfter {x y : Nat × String} : y ∈ oneAfter next x ↔ y.1 = x.1 + 1 ∧ y.2 ∈ next x.2 := by
  rw [oneAfter, List.mem_map]
  constructor
  · rintro ⟨n, hn, rfl⟩
    exact ⟨rfl, hn⟩
  · rintro ⟨hlevel, hn⟩
    exact ⟨y.2, hn, Prod.ext hlevel.symm rfl⟩

theorem map_snd_oneAfter (x : Nat × String) : (oneAfter next x).map Prod.snd = next x.2 := by
  rw [oneAfter, List.map_map]
  exact List.map_id _

theorem Levels.init : Levels next origin [(0, origin)] (oneAfter next (0, origin)) where
  steps x hx := by
    rcases List.mem_append.mp hx with hx | hx
    · rw [List.mem_singleton.mp hx]
      exact Steps.none
    · obtain ⟨hlevel, hn⟩ := mem_oneAfter.mp hx
      rw [hlevel]
      exact Steps.none.more hn
  rising := by
    rw [List.singleton_append, List.pairwise_cons]
    refine ⟨fun y _ => Nat.zero_le y.1, List.pairwise_of_forall_mem_list fun x hx y hy => ?_⟩
    rw [(mem_oneAfter.mp hx).1, (mem_oneAfter.mp hy).1]
  near x hx y hy := by
    rw [(mem_oneAfter.mp hx).1, (mem_oneAfter.mp hy).1]
    omega
  closed x hx n hn := by
    rw [List.mem_singleton.mp hx] at hn ⊢
    exact ⟨1, le_refl 1, List.mem_append_right _ (mem_oneAfter.mpr ⟨rfl, hn⟩)⟩

section Round
variable {met queue : List (Nat × String)} {x : Nat × String} (h : Levels next origin met (x :: queue))
include h

theorem Levels.le_of_mem_met : ∀ y ∈ met, y.1 ≤ x.1 := fun y hy =>
  (List.pairwise_append.mp h.rising).2.2 y hy x (List.mem_cons_self ..)

theorem Levels.le_of_mem_queue : ∀ y ∈ queue, x.1 ≤ y.1 :=
  (List.pairwise_cons.mp (List.pairwise_append.mp h.rising).2.1).1

/-- A name that was met before was met on no higher level. -/
theorem Levels.skip (hx : x.2 ∈ met.map Prod.snd) : Levels next origin met queue where
  steps y hy := h.steps y ((List.append_sublist_append_left met).mpr (List.sublist_cons_self x queue) |>.subset hy)
  rising := h.rising.sublist ((List.append_sublist_append_left met).mpr (List.sublist_cons_self x queue))
  near y hy z hz := h.near y (List.mem_cons_of_mem x hy) z (List.mem_cons_of_mem x hz)
  closed y hy n hn := by
    obtain ⟨level, hlevel, hmem⟩ := h.closed y hy n hn
    rcases List.mem_append.mp hmem with hmem | hmem
    · exact ⟨level, hlevel, List.mem_append_left queue hmem⟩
    · rcases List.mem_cons.mp hmem with rfl | hmem
      · obtain ⟨⟨before, name⟩, hbefore, rfl⟩ := List.mem_map.mp hx
        have hle := h.le_of_mem_met _ hbefore
        exact ⟨before, hle.trans hlevel, List.mem_append_left queue hbefore⟩
      · exact ⟨level, hlevel, List.mem_append_right met hmem⟩

/-- The names next to the one that is entered wait on the level after it, behind all others. -/
theorem Levels.enter : Levels next origin (met ++ [x]) (queue ++ oneAfter next x) := by
  have hsplit : met ++ [x] ++ (queue ++ oneAfter next x) = met ++ x :: queue ++ oneAfter next x := by simp
  have hbelow : ∀ y ∈ met ++ x :: queue, y.1 ≤ x.1 + 1 := by
    intro y hy
    rcases List.mem_append.mp hy with hy | hy
    · exact (h.le_of_mem_met y hy).trans (Nat.le_succ x.1)
    · exact h.near x (List.mem_cons_self ..) y hy
  refine ⟨fun y hy => ?_, ?_, fun y hy z hz => ?_, fun y hy n hn => ?_⟩
  · rw [hsplit] at hy
    rcases List.mem_append.mp hy with hy | hy
    · exact h.steps y hy
    · obtain ⟨hlevel, hn⟩ := mem_oneAfter.mp hy
      rw [hlevel]
      exact (h.steps x (List.mem_append_right met (List.mem_cons_self ..))).more hn
  · rw [hsplit, List.pairwise_append]
    refine ⟨h.rising, List.pairwise_of_forall_mem_list fun y hy z hz => ?_, fun y hy z hz => ?_⟩
    · rw [(mem_oneAfter.mp hy).1, (mem_oneAfter.mp hz).1]
    · rw [(mem_oneAfter.mp hz).1]
      exact hbelow y hy
  · have hlow : x.1 ≤ y.1 := by
      rcases List.mem_append.mp hy with hy | hy
      · exact h.le_of_mem_queue y hy
      · rw [(mem_oneAfter.mp hy).1]
        exact Nat.le_succ x.1
    have hhigh : z.1 ≤ x.1 + 1 := by
      rcases List.mem_append.mp hz with hz | hz
      · exact h.near x (List.mem_cons_self ..) z (List.mem_cons_of_mem x hz)
      · rw [(mem_oneAfter.mp hz).1]
    omega
  · rw [hsplit]
    rcases List.mem_append.mp hy with hy | hy
    · obtain ⟨level, hlevel, hmem⟩ := h.closed y hy n hn
      exact ⟨level, hlevel, List.mem_append_left _ hmem⟩
    · rw [List.mem_singleton.mp hy] at hn ⊢
      exact ⟨x.1 + 1, le_refl _, List.mem_append_right _ (mem_oneAfter.mpr ⟨rfl, hn⟩)⟩

end Round

/-! ## The end of a visit -/

/-- A visit with rounds enough meets names on their levels until none waits. -/
theorem Levels.finish {bound : Nat} (hb : Bounded next bound) {rounds : Nat} {seen : List String}
    {met queue : List (Nat × String)} (h : Levels next origin ((0, origin) :: met) queue)
    (hv : Visiting next origin (next origin) seen (met.map Prod.snd).reverse (queue.map Prod.snd))
    (hr : queue.length + bound + 1 ≤ rounds + (met.map fun x => (next x.2).length).sum) :
    ∃ met', Levels next origin ((0, origin) :: met') [] ∧ (met'.map Prod.snd).Nodup ∧ origin ∉ met'.map Prod.snd ∧
      visitNames next rounds seen (met.map Prod.snd).reverse (queue.map Prod.snd) = met'.map Prod.snd := by
  induction rounds generalizing seen met queue with
  | zero =>
    have hsum := hb _ (List.nodup_reverse.mp hv.nodup)
    rw [List.map_map] at hsum
    change (met.map fun x => (next x.2).length).sum ≤ bound at hsum
    omega
  | succ rounds ih =>
    cases queue with
    | nil =>
      exact ⟨met, h, List.nodup_reverse.mp hv.nodup, fun hin => hv.fresh (List.mem_reverse.mpr hin),
        List.reverse_reverse _⟩
    | cons x queue =>
      rw [List.map_cons] at hv ⊢
      rw [List.length_cons] at hr
      rw [visitNames]
      by_cases hs : x.2 ∈ seen
      · have hmet : x.2 ∈ ((0, origin) :: met).map Prod.snd := by
          rw [List.map_cons, List.mem_cons]
          exact ((hv.seen_iff x.2).mp hs).imp_right List.mem_reverse.mp
        rw [if_pos (List.contains_iff_mem.mpr hs)]
        exact ih (h.skip hmet) (hv.skip hs) (by omega)
      · have hdone : x.2 :: (met.map Prod.snd).reverse = ((met ++ [x]).map Prod.snd).reverse := by simp
        have hqueue : queue.map Prod.snd ++ next x.2 = (queue ++ oneAfter next x).map Prod.snd := by
          rw [List.map_append, map_snd_oneAfter]
        have hentered := hv.enter hs
        rw [hdone, hqueue] at hentered
        rw [if_neg (fun hc => hs (List.contains_iff_mem.mp hc)), hdone, hqueue]
        refine ih h.enter hentered ?_
        rw [List.length_append, List.map_append, List.sum_append, List.map_singleton, List.sum_singleton, oneAfter,
          List.length_map]
        omega

theorem Levels.reached {met : List (Nat × String)} (h : Levels next origin met []) (horigin : (0, origin) ∈ met)
    {n : Nat} {k : String} (hk : Steps (Next next) origin n k) : ∃ level ≤ n, (level, k) ∈ met := by
  induction hk with
  | none => exact ⟨0, le_refl 0, horigin⟩
  | more _ hstep ih =>
    obtain ⟨level, hlevel, hmem⟩ := ih
    obtain ⟨after, hafter, hmem⟩ := h.closed _ hmem _ hstep
    rw [List.append_nil] at hmem
    exact ⟨after, hafter.trans (Nat.succ_le_succ hlevel), hmem⟩

/-- In the end the level of a name is its distance. -/
theorem Levels.distance_eq {met : List (Nat × String)} (h : Levels next origin met []) (horigin : (0, origin) ∈ met)
    (hnodup : (met.map Prod.snd).Nodup) {x : Nat × String} (hx : x ∈ met) :
    distance (Next next) origin x.2 = x.1 := by
  refine ModelReach.distance_eq (h.steps x (List.mem_append_left [] hx)) fun n hn => ?_
  obtain ⟨level, hlevel, hmem⟩ := h.reached horigin hn
  have hsame : x = (level, x.2) := List.inj_on_of_nodup_map hnodup hx hmem rfl
  rw [hsame]
  exact hlevel

/-- A visit from an origin meets names in the order of their distances. -/
theorem rising_visitNames {bound : Nat} (hb : Bounded next bound) :
    ((visitNames next ((next origin).length + bound + 1) [origin] [] (next origin)).map
      (distance (Next next) origin)).Pairwise (· ≤ ·) := by
  have hvisiting : Visiting next origin (next origin) [origin] []
      ((oneAfter next (0, origin)).map Prod.snd) := by
    rw [map_snd_oneAfter]
    exact Visiting.init
  have hrounds : (oneAfter next (0, origin)).length + bound + 1 ≤ (next origin).length + bound + 1 + 0 := by
    rw [oneAfter, List.length_map, Nat.add_zero]
  obtain ⟨met, hlevels, hnodup, hfresh, hvisit⟩ := Levels.init.finish hb hvisiting hrounds
  rw [map_snd_oneAfter] at hvisit
  have hmet : visitNames next ((next origin).length + bound + 1) [origin] [] (next origin) = met.map Prod.snd := hvisit
  have hdistances : (met.map Prod.snd).map (distance (Next next) origin) = met.map Prod.fst := by
    rw [List.map_map]
    refine List.map_congr_left fun x hx => ?_
    exact hlevels.distance_eq (List.mem_cons_self ..) (List.nodup_cons.mpr ⟨hfresh, hnodup⟩)
      (List.mem_cons_of_mem _ hx)
  rw [hmet, hdistances, List.pairwise_map]
  have hrising := hlevels.rising
  rw [List.append_nil] at hrising
  exact (List.pairwise_cons.mp hrising).2

end Levels

end ModelReach
