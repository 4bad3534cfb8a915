import Mathlib.Algebra.Order.BigOperators.Group.List
import Mathlib.Algebra.Order.Ring.Nat
import Mathlib.Data.List.Nodup
import ModelReach.Proofs.Catalogue.Loaded

/-! The names above a class. Bases are given by name, so the visit of all ancestors of a class is a
breadth-first visit of a graph of names: it ends within the rounds that the number of bases allows, and finds
every name above the class, once, and no other. -/
namespace ModelReach
set_option autoImplicit false

/-! ## Climbing -/

section Climb
variable (next : String → List String) (origin : String) (start : List String)

/-- A name other than `origin` that is reached from the names `start` without passing `origin`. -/
inductive Climbs : String → Prop
  | start {n : String} (h : n ∈ start) (hn : n ≠ origin) : Climbs n
  | next {m n : String} (hm : Climbs m) (h : n ∈ next m) (hn : n ≠ origin) : Climbs n

/-- Visit a queue of names, nearest first. Names seen before are passed over; `done` holds those found,
last first. -/
def visitNames : Nat → List String → List String → List String → List String
  | 0, _, done, _ => done.reverse
  | _ + 1, _, done, [] => done.reverse
  | n + 1, seen, done, name :: queue =>
    if seen.contains name then visitNames n seen done queue
    else visitNames n (name :: seen) (name :: done) (queue ++ next name)

/-- What holds between two rounds of a visit. -/
structure Visiting (seen done queue : List String) : Prop where
  seen_iff : ∀ n, n ∈ seen ↔ n = origin ∨ n ∈ done
  nodup : done.Nodup
  fresh : origin ∉ done
  done_climbs : ∀ n ∈ done, Climbs next origin start n
  queue_climbs : ∀ n ∈ queue, n = origin ∨ Climbs next origin start n
  start_met : ∀ n ∈ start, n ∈ seen ∨ n ∈ queue
  next_met : ∀ m ∈ done, ∀ n ∈ next m, n ∈ seen ∨ n ∈ queue

/-- The names that may be opened have no more than `bound` names next to them. -/
def Bounded (bound : Nat) : Prop :=
  ∀ l : List String, l.Nodup → (l.map fun n => (next n).length).sum ≤ bound

variable {next origin start}

theorem Climbs.ne_origin {n : String} (h : Climbs next origin start n) : n ≠ origin := by
  cases h with
  | start _ hn => exact hn
  | next _ _ hn => exact hn

theorem Visiting.init : Visiting next origin start [origin] [] start where
  seen_iff n := by simp
  nodup := List.nodup_nil
  fresh := List.not_mem_nil
  done_climbs n h := absurd h List.not_mem_nil
  queue_climbs n h := by
    by_cases hn : n = origin
    · exact Or.inl hn
    · exact Or.inr (Climbs.start h hn)
  start_met n h := Or.inr h
  next_met m h := absurd h List.not_mem_nil

theorem Visiting.skip {seen done queue : List String} {name : String}
    (h : Visiting next origin start seen done (name :: queue)) (hs : name ∈ seen) :
    Visiting next origin start seen done queue where
  seen_iff := h.seen_iff
  nodup := h.nodup
  fresh := h.fresh
  done_climbs := h.done_climbs
  queue_climbs n hn := h.queue_climbs n (List.mem_cons_of_mem _ hn)
  start_met n hn := by
    rcases h.start_met n hn with hm | hm
    · exact Or.inl hm
    · rcases List.mem_cons.mp hm with rfl | hm
      · exact Or.inl hs
      · exact Or.inr hm
  next_met m hm n hn := by
    rcases h.next_met m hm n hn with hn | hn
    · exact Or.inl hn
    · rcases List.mem_cons.mp hn with rfl | hn
      · exact Or.inl hs
      · exact Or.inr hn

theorem Visiting.enter {seen done queue : List String} {name : String}
    (h : Visiting next origin start seen done (name :: queue)) (hs : name ∉ seen) :
    Visiting next origin start (name :: seen) (name :: done) (queue ++ next name) := by
  have hne : name ≠ origin := fun he => hs ((h.seen_iff name).mpr (Or.inl he))
  have hnew : name ∉ done := fun hd => hs ((h.seen_iff name).mpr (Or.inr hd))
  have hclimb : Climbs next origin start name :=
    (h.queue_climbs name (List.mem_cons_self ..)).resolve_left hne
  have hmet : ∀ n, n ∈ seen ∨ n ∈ name :: queue → n ∈ name :: seen ∨ n ∈ queue ++ next name := by
    intro n hn
    rcases hn with hn | hn
    · exact Or.inl (List.mem_cons_of_mem _ hn)
    · rcases List.mem_cons.mp hn with rfl | hn
      · exact Or.inl (List.mem_cons_self ..)
      · exact Or.inr (List.mem_append_left _ hn)
  refine ⟨fun n => ?_, List.nodup_cons.mpr ⟨hnew, h.nodup⟩, fun he => ?_, fun n hn => ?_, fun n hn => ?_,
    fun n hn => hmet n (h.start_met n hn), fun m hm n hn => ?_⟩
  · rw [List.mem_cons, List.mem_cons, h.seen_iff]
    tauto
  · rcases List.mem_cons.mp he with he | he
    · exact hne he.symm
    · exact h.fresh he
  · rcases List.mem_cons.mp hn with rfl | hn
    · exact hclimb
    · exact h.done_climbs n hn
  · rcases List.mem_append.mp hn with hn | hn
    · exact h.queue_climbs n (List.mem_cons_of_mem _ hn)
    · by_cases ho : n = origin
      · exact Or.inl ho
      · exact Or.inr (Climbs.next hclimb hn ho)
  · rcases List.mem_cons.mp hm with rfl | hm
    · exact Or.inr (List.mem_append_right _ hn)
    · exact hmet n (h.next_met m hm n hn)

/-- When nothing is left to visit, all names above the origin have been found. -/
theorem Visiting.mem_done_iff {seen done : List String} (h : Visiting next origin start seen done [])
    (n : String) : n ∈ done ↔ Climbs next origin start n := by
  have hseen : ∀ m, m ∈ seen ∨ m ∈ ([] : List String) → m ≠ origin → m ∈ done := by
    intro m hm hne
    have hm' := hm.resolve_right List.not_mem_nil
    exact ((h.seen_iff m).mp hm').resolve_left hne
  constructor
  · exact h.done_climbs n
  · intro hc
    induction hc with
    | start hn hne => exact hseen _ (h.start_met _ hn) hne
    | next _ hn hne ih => exact hseen _ (h.next_met _ ih _ hn) hne

/-- A visit with rounds enough ends with an empty queue, and with it all that was found. -/
theorem Visiting.finish {bound : Nat} (hb : Bounded next bound) {rounds : Nat}
    {seen done queue : List String} (h : Visiting next origin start seen done queue)
    (hr : queue.length + bound + 1 ≤ rounds + (done.map fun n => (next n).length).sum) :
    ∃ seen' done', Visiting next origin start seen' done' [] ∧
      visitNames next rounds seen done queue = done'.reverse := by
  induction rounds generalizing seen done queue with
  | zero =>
    have := hb done h.nodup
    omega
  | succ rounds ih =>
    cases queue with
    | nil => exact ⟨seen, done, h, rfl⟩
    | cons name queue =>
      rw [List.length_cons] at hr
      rw [visitNames]
      by_cases hs : name ∈ seen
      · rw [if_pos (List.contains_iff_mem.mpr hs)]
        exact ih (h.skip hs) (by omega)
      · rw [if_neg (fun hc => hs (List.contains_iff_mem.mp hc))]
        apply ih (h.enter hs)
        rw [List.length_append, List.map_cons, List.sum_cons]
        omega

theorem visitNames_finish {bound : Nat} (hb : Bounded next bound) :
    ∃ seen done, Visiting next origin start seen done [] ∧
      visitNames next (start.length + bound + 1) [origin] [] start = done.reverse := by
  have hinit : Visiting next origin start [origin] [] start := Visiting.init
  exact hinit.finish hb (Nat.le_add_right _ _)

theorem mem_visitNames {bound : Nat} (hb : Bounded next bound) (n : String) :
    n ∈ visitNames next (start.length + bound + 1) [origin] [] start ↔ Climbs next origin start n := by
  obtain ⟨seen, done, h, he⟩ := visitNames_finish hb
  rw [he, List.mem_reverse]
  exact h.mem_done_iff n

theorem nodup_visitNames {bound : Nat} (hb : Bounded next bound) :
    (visitNames next (start.length + bound + 1) [origin] [] start).Nodup := by
  obtain ⟨seen, done, h, he⟩ := visitNames_finish hb
  rw [he]
  exact List.nodup_reverse.mpr h.nodup

end Climb

/-! ## The names of bases -/

namespace Catalogue

/-- The bases of the class that stands under a name; none if no class does. -/
def nextNames (loads : List ModuleFacts) (name : String) : List String :=
  match (loaded loads).get? name with
  | some (.declared _ facts) => baseNames facts
  | _ => []

def namesOf : Descriptor → List String
  | .declared _ facts => baseNames facts
  | _ => []

theorem nextNames_eq (loads : List ModuleFacts) (name : String) :
    nextNames loads name = (((loaded loads).get? name).map namesOf).getD [] := by
  unfold nextNames
  cases (loaded loads).get? name with
  | none => rfl
  | some t => cases t <;> rfl

section Weight
variable {α : Type} (w : α → Nat)

/-- What the value under a key weighs; nothing if there is none. -/
def weightAt (l : List (String × α)) (k : String) : Nat := ((l.lookup k).map w).getD 0

theorem sum_single_le {l : List String} (h : l.Nodup) (k : String) (x : Nat) :
    (l.map fun n => if n = k then x else 0).sum ≤ x := by
  induction l with
  | nil => exact Nat.zero_le x
  | cons n l ih =>
    obtain ⟨hn, hl⟩ := List.nodup_cons.mp h
    rw [List.map_cons, List.sum_cons]
    by_cases hk : n = k
    · have hzero : (l.map fun n => if n = k then x else 0).sum = 0 := by
        rw [List.sum_eq_zero]
        intro y hy
        obtain ⟨m, hm, rfl⟩ := List.mem_map.mp hy
        exact if_neg fun hmk => hn (by rw [hk, ← hmk]; exact hm)
      rw [if_pos hk, hzero, Nat.add_zero]
    · rw [if_neg hk, Nat.zero_add]
      exact ih hl

theorem sum_weightAt_le (entries : List (String × α)) {l : List String} (h : l.Nodup) :
    (l.map (weightAt w entries)).sum ≤ (entries.map fun e => w e.2).sum := by
  induction entries with
  | nil =>
    rw [List.sum_eq_zero]
    · exact Nat.zero_le _
    · intro x hx
      obtain ⟨n, _, rfl⟩ := List.mem_map.mp hx
      rfl
  | cons e entries ih =>
    have hstep : ∀ n, weightAt w (e :: entries) n ≤
        (if n = e.1 then w e.2 else 0) + weightAt w entries n := by
      intro n
      unfold weightAt
      rw [List.lookup_cons]
      by_cases hn : n = e.1
      · simp [hn]
      · simp [hn, beq_false_of_ne hn]
    have hsum : (l.map (weightAt w (e :: entries))).sum ≤
        (l.map fun n => (if n = e.1 then w e.2 else 0) + weightAt w entries n).sum :=
      List.sum_le_sum fun n _ => hstep n
    have hone := sum_single_le h e.1 (w e.2)
    rw [List.sum_map_add] at hsum
    rw [List.map_cons, List.sum_cons]
    omega

theorem sum_replace_le {entries : List (String × α)} (h : (entries.map Prod.fst).Nodup) (k : String)
    (v : α) :
    ((entries.map fun e => if e.1 = k then (k, v) else e).map fun e => w e.2).sum ≤
      (entries.map fun e => w e.2).sum + w v := by
  induction entries with
  | nil => exact Nat.zero_le _
  | cons e entries ih =>
    rw [List.map_cons, List.nodup_cons] at h
    rw [List.map_cons, List.map_cons, List.sum_cons, List.map_cons, List.sum_cons]
    by_cases he : e.1 = k
    · have hsame : (entries.map fun e => if e.1 = k then (k, v) else e) = entries := by
        conv => rhs; rw [← List.map_id entries]
        apply List.map_congr_left
        intro e' he'
        have hne : ¬ e'.1 = k := fun hk => h.1 (List.mem_map.mpr ⟨e', he', by rw [hk, he]⟩)
        rw [if_neg hne]
        rfl
      rw [hsame, if_pos he]
      simp only
      omega
    · have hrest := ih h.2
      rw [if_neg he]
      omega

theorem sum_assign_le {entries : List (String × α)} (h : (entries.map Prod.fst).Nodup) (k : String)
    (v : α) :
    ((assign entries k v).map fun e => w e.2).sum ≤ (entries.map fun e => w e.2).sum + w v := by
  unfold assign
  split
  · exact sum_replace_le w h k v
  · rw [List.map_append, List.sum_append]
    simp

theorem sum_declare_le (w : Descriptor → Nat) (ts : List Descriptor)
    {entries : List (String × Descriptor)} (h : (entries.map Prod.fst).Nodup) :
    ((ts.foldl (fun done t => assign done t.key t) entries).map fun e => w e.2).sum ≤
      (entries.map fun e => w e.2).sum + (ts.map w).sum := by
  induction ts generalizing entries with
  | nil => exact Nat.le_refl _
  | cons t ts ih =>
    have hrest := ih (nodup_keys_assign h t.key t)
    have hone := sum_assign_le w h t.key t
    rw [List.foldl_cons, List.map_cons, List.sum_cons]
    omega

end Weight

theorem length_baseNames_le (facts : ClassFacts) : (baseNames facts).length ≤ facts.bases.length :=
  (List.length_filter_le _ _).trans (List.length_filterMap_le _ _)

theorem sum_namesOf_numbered_le (n : Nat) (l : List ClassFacts) :
    ((numbered n l).map fun t => (namesOf t).length).sum ≤ baseCount l := by
  induction l generalizing n with
  | nil => exact Nat.le_refl _
  | cons f l ih =>
    have hf := length_baseNames_le f
    have hl := ih (n + 1)
    rw [numbered, List.map_cons, List.sum_cons, baseCount]
    exact Nat.add_le_add hf hl

theorem bounded_nextNames (loads : List ModuleFacts) :
    Bounded (nextNames loads) (loaded loads).edges := by
  intro l hl
  have hw : (l.map fun n => (nextNames loads n).length) =
      l.map (weightAt (fun t => (namesOf t).length) (loaded loads).declared) := by
    apply List.map_congr_left
    intro n _
    rw [nextNames_eq, weightAt, get?]
    cases (loaded loads).declared.lookup n <;> rfl
  have h₁ := sum_weightAt_le (fun t => (namesOf t).length) (loaded loads).declared hl
  have hnil : (([] : List (String × Descriptor)).map Prod.fst).Nodup := List.nodup_nil
  have h₂ := sum_declare_le (fun t => (namesOf t).length) (numbered 0 (classesIn loads)) hnil
  have h₃ := sum_namesOf_numbered_le 0 (classesIn loads)
  rw [hw, loaded_edges]
  rw [loaded_declared] at h₁ ⊢
  rw [List.map_nil, List.sum_nil] at h₂
  omega

end Catalogue
end ModelReach
