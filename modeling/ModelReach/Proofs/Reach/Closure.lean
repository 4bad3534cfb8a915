import Mathlib.Data.List.Perm.Subperm
import Mathlib.Order.Bounds.Basic
import ModelReach.Proofs.Reach.Following

/-! The closure under properties. Whatever pending model is taken next, and in whatever order what it leads to is
noted, following models comes to an end, each member having been followed once, and leaves the least set of keys
that holds the given ones and all that properties of its members lead to. -/
namespace ModelReach.Reach
set_option autoImplicit false

open Catalogue

/-! ## Closed sets -/

/-- The type that a key stands for: a given one, or else the class that is registered. -/
def standing (c : Catalogue) (given : TypeSet) (key : String) : Option Descriptor :=
  (given.members.find? (·.key == key)).or (c.get? key)

/-- The keys hold those given and, with each key, all that properties of its type lead to. -/
structure ClosedKeys (p : Policy) (c : Catalogue) (given : TypeSet) (keys : Set String) : Prop where
  holds : ∀ k ∈ given.keys, k ∈ keys
  leads : ∀ k ∈ keys, ∀ t ∈ standing c given k, ∀ found, LeadsTo p c t found → found.key ∈ keys

/-! ## Schedules -/

/-- Pending models are followed, one after the other, each chosen freely among those pending, and what it
leads to is noted in any order. The list holds the models followed. -/
inductive Drains (p : Policy) : Catalogue → Worklist → List Descriptor → Catalogue → Worklist → Prop
  | stop {c : Catalogue} {w : Worklist} : Drains p c w [] c w
  | pop {c d : Catalogue} {w w' : Worklist} {model : Descriptor} {rest popped : List Descriptor}
    (o : SetOrder) (h : w.pending.Perm (model :: rest))
    (hd : Drains p (Worklist.follow p view o ⟨w.models, rest⟩ model c).2
      (Worklist.follow p view o ⟨w.models, rest⟩ model c).1 popped d w') :
    Drains p c w (model :: popped) d w'

/-! ## Notes -/

/-- Noting types adds those that are new, to the set and before the pending ones. -/
structure Noted (w : Worklist) (found : List Descriptor) (w' : Worklist) (new : List Descriptor) : Prop where
  members : w'.models.members = w.models.members ++ new
  pending : w'.pending = new.reverse ++ w.pending
  among : ∀ t ∈ new, t ∈ found
  met : ∀ t ∈ found, t.key ∈ w'.models.keys
  nodup : w'.models.keys.Nodup

theorem Worklist.note_of_mem {w : Worklist} {t : Descriptor} (h : t.key ∈ w.models.keys) :
    w.note t = w := by
  rw [Worklist.note, if_pos ((TypeSet.contains_iff _ t).mpr h)]

theorem Worklist.note_of_notMem {w : Worklist} {t : Descriptor} (h : t.key ∉ w.models.keys) :
    w.note t = ⟨w.models.insert t, t :: w.pending⟩ := by
  rw [Worklist.note, if_neg fun hc => h ((TypeSet.contains_iff _ t).mp hc)]

theorem exists_noted (found : List Descriptor) {w : Worklist} (hw : w.models.keys.Nodup) :
    ∃ new, Noted w found (found.foldl Worklist.note w) new := by
  induction found generalizing w with
  | nil => exact ⟨[], (List.append_nil _).symm, rfl, fun t h => h, fun t h => absurd h List.not_mem_nil, hw⟩
  | cons t found ih =>
    rw [List.foldl_cons]
    by_cases ht : t.key ∈ w.models.keys
    · rw [Worklist.note_of_mem ht]
      obtain ⟨new, h⟩ := ih hw
      refine ⟨new, h.members, h.pending, fun x hx => List.mem_cons_of_mem _ (h.among x hx), fun x hx => ?_,
        h.nodup⟩
      rcases List.mem_cons.mp hx with rfl | hx
      · rw [TypeSet.keys, h.members, List.map_append]
        exact List.mem_append_left _ ht
      · exact h.met x hx
    · rw [Worklist.note_of_notMem ht]
      obtain ⟨new, h⟩ := ih (w := ⟨w.models.insert t, t :: w.pending⟩) (TypeSet.nodup_insert hw t)
      generalize found.foldl Worklist.note _ = w' at h
      have hmembers : w'.models.members = w.models.members ++ t :: new := by
        rw [h.members, TypeSet.insert_of_notMem ht, List.append_assoc, List.singleton_append]
      refine ⟨t :: new, hmembers, ?_, fun x hx => ?_, fun x hx => ?_, h.nodup⟩
      · rw [h.pending, List.reverse_cons, List.append_assoc, List.singleton_append]
      · rcases List.mem_cons.mp hx with rfl | hx
        · exact List.mem_cons_self ..
        · exact List.mem_cons_of_mem _ (h.among x hx)
      · rcases List.mem_cons.mp hx with rfl | hx
        · rw [TypeSet.keys, hmembers, List.map_append, List.map_cons]
          exact List.mem_append_right _ (List.mem_cons_self ..)
        · exact h.met x hx

/-! ## The invariant -/

section Closure
variable {loads : List ModuleFacts} {p : Policy} {given : TypeSet}

/-- What holds between two rounds. -/
structure Draining (loads : List ModuleFacts) (p : Policy) (given : TypeSet) (c : Catalogue) (w : Worklist)
    (popped : List Descriptor) : Prop where
  sound : Sound loads c
  nodup : w.models.keys.Nodup
  members : (popped ++ w.pending).Perm w.models.members
  grown : ∃ more, w.models.members = given.members ++ more ∧
    ∀ t ∈ more, Standing loads p t
  leads : ∀ t ∈ popped, ∀ d, Follows loads c d → ∀ f, LeadsTo p d t f ↔ ShowsTo p d.reading t f
  closed : ∀ t ∈ popped, ∀ d, Follows loads c d → ∀ f, ShowsTo p d.reading t f → f.key ∈ w.models.keys
  within : ∀ d, Follows loads c d → ∀ keys, ClosedKeys p d given keys → ∀ k ∈ w.models.keys, k ∈ keys

theorem Draining.init {c : Catalogue} (hc : Sound loads c) (hn : given.keys.Nodup)
    {pending : List Descriptor} (hp : pending.Perm given.members) :
    Draining loads p given c ⟨given, pending⟩ [] where
  sound := hc
  nodup := hn
  members := hp
  grown := ⟨[], (List.append_nil _).symm, fun _ h => absurd h List.not_mem_nil⟩
  leads _ h := absurd h List.not_mem_nil
  closed _ h := absurd h List.not_mem_nil
  within _ _ _ hk k h := hk.holds k h

variable {c : Catalogue} {w : Worklist} {popped : List Descriptor}

theorem Draining.known (h : Draining loads p given c w popped)
    (hg : ∀ t ∈ given.members, Registered loads t) : ∀ t ∈ w.models.members, Known loads t := by
  obtain ⟨more, hm, hmore⟩ := h.grown
  intro t ht
  rw [hm] at ht
  rcases List.mem_append.mp ht with ht | ht
  · exact (hg t ht).known
  · exact (hmore t ht).registered.known

/-- Each member is the type that its key stands for. -/
theorem Draining.standing_key (h : Draining loads p given c w popped) {d : Catalogue}
    (hd : Sound loads d) {t : Descriptor} (ht : t ∈ w.models.members) :
    standing d given t.key = some t := by
  obtain ⟨more, hm, hmore⟩ := h.grown
  have hn := h.nodup
  rw [TypeSet.keys, hm, List.map_append, List.nodup_append] at hn
  rw [hm] at ht
  rw [standing]
  rcases List.mem_append.mp ht with ht | ht
  · rw [TypeSet.find?_key hn.1 ht, Option.some_or]
  · have hnone : given.members.find? (·.key == t.key) = none := by
      rw [List.find?_eq_none]
      intro m hm' hk
      exact hn.2.2 _ (List.mem_map_of_mem hm') _ (List.mem_map_of_mem ht) (beq_iff_eq.mp hk)
    rw [hnone, Option.none_or, hd.get?_eq, (hmore t ht).stands]

/-- No more models are followed than are given or registered. -/
theorem Draining.length_le (h : Draining loads p given c w popped) :
    popped.length ≤ given.size + (classesIn loads).length := by
  obtain ⟨more, hm, hmore⟩ := h.grown
  have hn := h.nodup
  rw [TypeSet.keys, hm, List.map_append, List.nodup_append] at hn
  have hsub : more.map Descriptor.key ⊆ (loaded loads).declared.map Prod.fst := by
    intro k hk
    obtain ⟨t, ht, rfl⟩ := List.mem_map.mp hk
    exact List.mem_map_of_mem (mem_of_lookup (hmore t ht).stands)
  have hmore := (List.subperm_of_subset hn.2.1 hsub).length_le
  have hlen := h.members.length_eq
  have hdeclared := length_declared_le loads
  rw [hm, List.length_append, List.length_append] at hlen
  rw [List.length_map, List.length_map] at hmore
  rw [TypeSet.size]
  omega

theorem Draining.pop (h : Draining loads p given c w popped)
    (hg : ∀ t ∈ given.members, Registered loads t) {model : Descriptor} {rest : List Descriptor}
    (hp : w.pending.Perm (model :: rest)) (o : SetOrder) :
    Follows loads c (Worklist.follow p view o ⟨w.models, rest⟩ model c).2 ∧
      Draining loads p given (Worklist.follow p view o ⟨w.models, rest⟩ model c).2
        (Worklist.follow p view o ⟨w.models, rest⟩ model c).1 (popped ++ [model]) := by
  have hmodel : model ∈ w.models.members := h.members.mem_iff.mp
    (List.mem_append_right _ (hp.mem_iff.mpr (List.mem_cons_self ..)))
  obtain ⟨found, hf⟩ := followed (p := p) (o := o) h.sound (h.known hg model hmodel) ⟨w.models, rest⟩
  obtain ⟨new, hnew⟩ := exists_noted found (w := ⟨w.models, rest⟩) h.nodup
  rw [← hf.noted] at hnew
  generalize (Worklist.follow p view o ⟨w.models, rest⟩ model c).2 = d at hf
  generalize (Worklist.follow p view o ⟨w.models, rest⟩ model c).1 = w' at hf hnew
  have hold : ∀ k ∈ w.models.keys, k ∈ w'.models.keys := by
    intro k hk
    rw [TypeSet.keys, hnew.members, List.map_append]
    exact List.mem_append_left _ hk
  refine ⟨hf.follows, hf.follows.sound, hnew.nodup, ?_, ?_, fun t ht e he => ?_,
    fun t ht e he f hl => ?_, fun e he keys hk k hkey => ?_⟩
  · rw [hnew.pending, hnew.members, List.append_assoc, List.singleton_append]
    have hswap : (new.reverse ++ rest).Perm (rest ++ new) :=
      List.perm_append_comm.trans ((List.reverse_perm new).append_left rest)
    have hmove : (popped ++ model :: (new.reverse ++ rest)).Perm (popped ++ (model :: rest) ++ new) := by
      rw [List.append_assoc, List.cons_append]
      exact (hswap.cons model).append_left popped
    exact hmove.trans (((hp.symm.append_left popped).trans h.members).append_right new)
  · obtain ⟨more, hm, hmore⟩ := h.grown
    refine ⟨more ++ new, by rw [hnew.members, hm, List.append_assoc], fun t ht => ?_⟩
    rcases List.mem_append.mp ht with ht | ht
    · exact hmore t ht
    · exact hf.standing t (hnew.among t ht)
  · rcases List.mem_append.mp ht with ht | ht
    · exact h.leads t ht e (hf.follows.trans he)
    · rw [List.mem_singleton.mp ht]
      exact hf.leads e he
  · rcases List.mem_append.mp ht with ht | ht
    · exact hold _ (h.closed t ht e (hf.follows.trans he) f hl)
    · rw [List.mem_singleton.mp ht] at hl
      exact hnew.met f ((hf.shows e he f).mpr hl)
  · rw [TypeSet.keys, hnew.members, List.map_append] at hkey
    rcases List.mem_append.mp hkey with hkey | hkey
    · exact h.within e (hf.follows.trans he) keys hk k hkey
    · obtain ⟨t, ht, rfl⟩ := List.mem_map.mp hkey
      have hin : model.key ∈ keys :=
        h.within e (hf.follows.trans he) keys hk _ (TypeSet.key_mem_keys hmodel)
      exact hk.leads model.key hin model (h.standing_key he.sound hmodel) t
        ((hf.leads e he t).mpr ((hf.shows e he t).mp (hnew.among t ht)))

/-! ## Runs -/

theorem Draining.run (h : Draining loads p given c w popped)
    (hg : ∀ t ∈ given.members, Registered loads t) {d : Catalogue} {w' : Worklist}
    {more : List Descriptor} (hd : Drains p c w more d w') :
    Follows loads c d ∧ Draining loads p given d w' (popped ++ more) := by
  induction hd generalizing popped with
  | stop =>
    rw [List.append_nil]
    exact ⟨Follows.refl h.sound, h⟩
  | @pop c d w w' model rest more o hp _ ih =>
    obtain ⟨hfollows, hstep⟩ := h.pop hg hp o
    obtain ⟨hrest, hend⟩ := ih hstep
    rw [List.append_assoc, List.singleton_append] at hend
    exact ⟨hfollows.trans hrest, hend⟩

/-- When nothing is pending, the models are closed, and within every closed set. -/
theorem Draining.isLeast (h : Draining loads p given c w popped) (hp : w.pending = []) :
    IsLeast {keys | ClosedKeys p c given keys} {k | k ∈ w.models.keys} := by
  refine ⟨⟨fun k hk => ?_, fun k hk t ht found hl => ?_⟩, fun keys hk k hkey => ?_⟩
  · obtain ⟨more, hm, _⟩ := h.grown
    change k ∈ w.models.members.map Descriptor.key
    rw [hm, List.map_append]
    exact List.mem_append_left _ hk
  · obtain ⟨m, hm, rfl⟩ := List.mem_map.mp hk
    rw [Option.mem_def, h.standing_key h.sound hm, Option.some_inj] at ht
    rw [← ht] at hl
    have hpopped : m ∈ popped := by
      have hmem := h.members.mem_iff.mpr hm
      rw [hp, List.append_nil] at hmem
      exact hmem
    exact h.closed m hpopped c (Follows.refl h.sound) found
      ((h.leads m hpopped c (Follows.refl h.sound) found).mp hl)
  · exact h.within c (Follows.refl h.sound) keys hk k hkey

/-- Rounds enough empty the worklist. -/
theorem exists_drains (o : SetOrder) (hg : ∀ t ∈ given.members, Registered loads t) (rounds : Nat)
    (h : Draining loads p given c w popped)
    (hr : given.size + (classesIn loads).length < rounds + popped.length) :
    ∃ more, Drains p c w more (Worklist.run p view o rounds w c).2 (Worklist.run p view o rounds w c).1 ∧
      (Worklist.run p view o rounds w c).1.pending = [] := by
  induction rounds generalizing c w popped with
  | zero =>
    have := h.length_le
    omega
  | succ rounds ih =>
    rw [Worklist.run]
    cases hpending : w.pending with
    | nil => exact ⟨[], Drains.stop, hpending⟩
    | cons model rest =>
      have hperm : w.pending.Perm (model :: rest) := by rw [hpending]
      obtain ⟨more, hd, hend⟩ := ih (h.pop hg hperm o).2 (by
        rw [List.length_append, List.length_singleton]
        omega)
      exact ⟨model :: more, Drains.pop o hperm hd, hend⟩

end Closure

/-! ## The closure -/

/-- The set has the least closed keys, each member is the type that its key stands for, and each has been
followed once. -/
structure LeastClosure (p : Policy) (c : Catalogue) (given models : TypeSet) (popped : List Descriptor) :
    Prop where
  least : IsLeast {keys | ClosedKeys p c given keys} {k | k ∈ models.keys}
  stands : ∀ t ∈ models.members, standing c given t.key = some t
  distinct : models.keys.Nodup
  once : popped.Perm models.members

/-- Every schedule ends within a fixed number of rounds, adds nothing at any time that is not in every set
closed by the answers given then or later, and leaves the least closed set; `closeProperties` is a schedule
that has been followed to its end. -/
theorem closeProperties_leastClosure {loads : List ModuleFacts} {c : Catalogue} (hc : InUse loads c)
    (p : Policy) {given : TypeSet} (hn : given.keys.Nodup)
    (hg : ∀ t ∈ given.members, Registered loads t) :
    (∀ (pending popped : List Descriptor) (d : Catalogue) (w : Worklist), pending.Perm given.members →
      Drains p c ⟨given, pending⟩ popped d w →
        popped.length ≤ given.size + (classesIn loads).length ∧
        (∀ (more : List Descriptor) (e : Catalogue) (w' : Worklist), Drains p d w more e w' →
          ∀ keys, ClosedKeys p e given keys → ∀ k ∈ w.models.keys, k ∈ keys) ∧
        (w.pending = [] → LeastClosure p d given w.models popped)) ∧
    (∀ o : SetOrder, ∃ popped d w, Drains p c ⟨given, (given.visit o).reverse⟩ popped d w ∧
      w.pending = [] ∧ (closeProperties p view o given) c = (w.models, d)) := by
  refine ⟨fun pending popped d w hp hd => ?_, fun o => ?_⟩
  · have hinit := Draining.init (p := p) hc.sound hn hp
    obtain ⟨_, hend⟩ := hinit.run hg hd
    rw [List.nil_append] at hend
    refine ⟨hend.length_le, fun more e w' hmore keys hk k hkey => ?_, fun hempty => ?_⟩
    · obtain ⟨hlater, _⟩ := hend.run hg hmore
      exact hend.within e hlater keys hk k hkey
    · refine ⟨hend.isLeast hempty, fun t ht => hend.standing_key hend.sound ht, hend.nodup, ?_⟩
      have hmembers := hend.members
      rw [hempty, List.append_nil] at hmembers
      exact hmembers
  · have hperm : (given.visit o).reverse.Perm given.members :=
      (List.reverse_perm _).trans (o.perm given.members)
    have hinit := Draining.init (p := p) hc.sound hn hperm
    obtain ⟨popped, hd, hempty⟩ := exists_drains o hg (given.size + c.settled.length + 1) hinit (by
      rw [hc.sound.size, List.length_nil]
      omega)
    exact ⟨popped, _, _, hd, hempty, rfl⟩

def linked (name other : String) : ClassFacts :=
  ⟨name, "m", [], [], none, [⟨"other", .named ("m." ++ other), false, []⟩], [], []⟩

/-- A module of two classes that refer to each other. -/
def ring : List ModuleFacts := [⟨"m", "m.py", [], [linked "A" "B", linked "B" "A"]⟩]

theorem closeProperties_ring :
    ∃ popped d, LeastClosure .usual d ⟨[.declared 0 (linked "A" "B")]⟩
      ((closeProperties .usual view .inserted ⟨[.declared 0 (linked "A" "B")]⟩)
        { loaded ring with failures := [] }).1 popped := by
  have hreg : ∀ t ∈ [Descriptor.declared 0 (linked "A" "B")], Registered ring t := by
    intro t ht
    rw [List.mem_singleton.mp ht]
    exact ⟨0, linked "A" "B", rfl, rfl⟩
  have hnodup : (TypeSet.keys ⟨[.declared 0 (linked "A" "B")]⟩).Nodup := List.nodup_singleton _
  obtain ⟨hall, hrun⟩ := closeProperties_leastClosure (InUse.loaded []) .usual hnodup hreg
  obtain ⟨popped, d, w, hd, hempty, he⟩ := hrun .inserted
  refine ⟨popped, d, ?_⟩
  rw [he]
  exact (hall _ popped d w (List.reverse_perm _) hd).2.2 hempty

example : ((closeProperties .usual view .inserted ⟨[.declared 0 (linked "A" "B")]⟩)
    { loaded ring with failures := [] }).1.keys = ["m.A", "m.B"] := by decide

end ModelReach.Reach
