import ModelReach.Proofs.Inheritance.Gathering
import ModelReach.Proofs.Inheritance.Linearization

/-! The class that a property of a class is taken from: the first one that declares the name in the order of last
visits, which need not be the first one in the C3 linearization. -/
namespace ModelReach.Catalogue
set_option autoImplicit false

/-! ## The class that comes first -/

/-- Does a class or an ancestor of it, which has the key, declare a property with the name? -/
def declaresName (t : Descriptor) (c : Catalogue) (name key : String) : Bool :=
  (t :: (view.ancestors t c).1).any fun w =>
    w.key == key && (namesOfProperties (view.properties w c).1).contains name

/-- A property is the last one of its name that the first class of an order declares which declares the name. -/
def TakenFrom (t : Descriptor) (c : Catalogue) (order : List String) (q : Property) : Prop :=
  ∃ u ∈ t :: (view.ancestors t c).1, order.find? (declaresName t c q.name) = some u.key ∧
    lastNamed (view.properties u c).1 q.name = some q

variable {loads : List ModuleFacts} {t : Descriptor}

/-- The classes in the order of last visits are merged from its end on. -/
theorem classOrder_eq (ht : Registered loads t) {n : Nat} (hn : EndsWithin (baseNamesFrom loads t) n t.key) :
    (classOrder loads t).reverse =
      (lastVisits (baseNamesFrom loads t) n t.key).filter fun k => (seenFrom loads t k).isSome := by
  have hleaf : ∀ k, (seenFrom loads t k).isSome = false → baseNamesFrom loads t k = [] := by
    intro k hk
    refine List.eq_nil_iff_forall_not_mem.mpr fun m hm => ?_
    rw [isSome_of_up hm] at hk
    exact absurd hk.symm Bool.false_ne_true
  have hself : (seenFrom loads t t.key).isSome = true := by
    rw [seenFrom_self]
    rfl
  rw [← lastVisits_filter hleaf n hself, classOrder, openedFrom_eq (within_classNames ht) (key_mem_classNames ht)
    (length_classNames_le loads) (hn.filter _), List.reverse_reverse]
  rfl

section Asked
variable (ht : Registered loads t) {d : Catalogue} (hd : Sound loads d) (hasked : Asked loads (view.allProperties t) d)
include ht hd hasked

theorem declaresName_iff (name k : String) : declaresName t d name k = true ↔
    k ∈ classOrder loads t ∧ name ∈ namesOfProperties (ownFrom loads t d.reading k) := by
  rw [declaresName, List.any_eq_true]
  constructor
  · rintro ⟨w, hw, hdeclares⟩
    obtain ⟨hk, hname⟩ := Bool.and_eq_true_iff.mp hdeclares
    rw [beq_iff_eq] at hk
    rw [List.contains_iff_mem] at hname
    obtain ⟨hstands, horder⟩ := (mem_cons_classesAbove ht hd).mp (mem_cons_classesAbove_of_declares hw hname)
    rw [hk] at hstands horder
    exact ⟨horder, (mem_names_ownFrom ht hasked horder name).mpr ⟨w, hstands, hname⟩⟩
  · rintro ⟨hk, hname⟩
    obtain ⟨u, hu, hdeclares⟩ := (mem_names_ownFrom ht hasked hk name).mp hname
    obtain rfl := key_of_seenFrom hu
    have hmem := (mem_cons_classesAbove ht hd).mpr ⟨hu, hk⟩
    exact ⟨u, mem_cons_ancestors hmem,
      Bool.and_eq_true_iff.mpr ⟨beq_self_eq_true u.key, List.contains_iff_mem.mpr hdeclares⟩⟩

/-- Only classes declare anything, so that other names in an order may be left out. -/
theorem find?_lastVisits {n : Nat} (hn : EndsWithin (baseNamesFrom loads t) n t.key) (name : String) :
    (lastVisits (baseNamesFrom loads t) n t.key).find? (declaresName t d name) =
      (classOrder loads t).reverse.find? (declaresName t d name) := by
  have hsame : declaresName t d name =
      fun k => decide ((seenFrom loads t k).isSome = true ∧ declaresName t d name k = true) := by
    funext k
    rw [Bool.eq_iff_iff, decide_eq_true_iff]
    refine (and_iff_right_of_imp fun h => ?_).symm
    exact ((mem_classOrder ht).mp ((declaresName_iff ht hd hasked name k).mp h).1).2
  rw [classOrder_eq ht hn, List.find?_filter, ← hsame]

theorem takenFrom_lastVisits {n : Nat} (hn : EndsWithin (baseNamesFrom loads t) n t.key) :
    ∀ q ∈ (d.reading.allProperties t).run, TakenFrom t d (lastVisits (baseNamesFrom loads t) n t.key) q := by
  intro q hq
  obtain ⟨a, u, b, he, hmem, hlast, hafter⟩ := exists_chosen ht hd hasked hq
  have hk := ((mem_cons_classesAbove ht hd).mp hmem).2
  have hnone : b.reverse.find? (declaresName t d q.name) = none := by
    refine List.find?_eq_none.mpr fun m hm h => ?_
    exact hafter m (List.mem_reverse.mp hm) ((declaresName_iff ht hd hasked q.name m).mp h).2
  have hfound : declaresName t d q.name u.key = true := by
    refine (declaresName_iff ht hd hasked q.name u.key).mpr ⟨hk, (mem_names_ownFrom ht hasked hk q.name).mpr ?_⟩
    exact ⟨u, ((mem_cons_classesAbove ht hd).mp hmem).1, mem_names_of_lastNamed hlast⟩
  refine ⟨u, mem_cons_ancestors hmem, ?_, hlast⟩
  rw [find?_lastVisits ht hd hasked hn, he, List.reverse_append, List.reverse_cons, List.find?_append,
    List.find?_append, hnone, Option.none_or, List.find?_singleton, if_pos hfound]
  rfl

end Asked

/-- Every property of a class from which all ways up end is taken from the first class in the order of last visits
that declares its name. -/
theorem allProperties_takenFrom_lastVisits {c : Catalogue} (hc : InUse loads c) (ht : Registered loads t) {n : Nat}
    (hn : EndsWithin (baseNamesFrom loads t) n t.key) : ∀ q ∈ (view.allProperties t c).1,
      TakenFrom t (view.allProperties t c).2 (lastVisits (baseNamesFrom loads t) n t.key) q := by
  have hanswers := answers_allProperties ht.known
  rw [← hanswers.shown hc.sound]
  exact takenFrom_lastVisits ht (hanswers.sound hc.sound) (hanswers.asked hc.sound) hn

/-- Of a class that has a C3 linearization, every property is taken from the first class in the order of last visits
that declares its name, and from the first one in the linearization, if that of the class and those of all above it
keep blocks apart. -/
theorem allProperties_takenFrom_c3 {c : Catalogue} (hc : InUse loads c) (ht : Registered loads t) {n : Nat}
    {order : List String} (h : c3 (baseNamesFrom loads t) n t.key = some order) :
    (∀ q ∈ (view.allProperties t c).1,
      TakenFrom t (view.allProperties t c).2 (lastVisits (baseNamesFrom loads t) n t.key) q) ∧
    ((∀ u l, Reaches (baseNamesFrom loads t) t.key u → c3 (baseNamesFrom loads t) n u = some l →
      InBlocks (baseNamesFrom loads t) u l) →
        ∀ q ∈ (view.allProperties t c).1, TakenFrom t (view.allProperties t c).2 order q) := by
  have hlast := allProperties_takenFrom_lastVisits hc ht (endsWithin_of_c3 h)
  refine ⟨hlast, fun hblocks => ?_⟩
  rw [(c3_eq_lastVisits_iff n t.key).mp hblocks t.key order Relation.ReflTransGen.refl h]
  exact hlast

theorem allProperties_takenFrom_c3_diamond :
    c3 (baseNamesFrom diamond bottom) 4 bottom.key = some ["m.D", "m.B", "m.C", "m.A"] ∧
    ∀ q ∈ (view.allProperties bottom (loaded diamond)).1,
      TakenFrom bottom (view.allProperties bottom (loaded diamond)).2 ["m.D", "m.B", "m.C", "m.A"] q := by
  have hc : InUse diamond (loaded diamond) := InUse.loaded (loaded diamond).failures
  have ht : Registered diamond bottom := ⟨3, heir "D" ["B", "C"] ["z"], rfl, rfl⟩
  have hc3 : c3 (baseNamesFrom diamond bottom) 4 bottom.key = some ["m.D", "m.B", "m.C", "m.A"] := by decide
  refine ⟨hc3, (allProperties_takenFrom_c3 hc ht hc3).2 ?_⟩
  rw [c3_eq_lastVisits_iff]
  intro u l hu hl
  have hall : ∀ u ∈ walk (baseNamesFrom diamond bottom) 4 bottom.key,
      c3 (baseNamesFrom diamond bottom) 4 u = some (lastVisits (baseNamesFrom diamond bottom) 4 u) := by decide
  rw [hall u ((mem_walk (endsWithin_of_c3 hc3) u).mpr hu), Option.some_inj] at hl
  exact hl.symm

/-- A module in which a class inherits from one that puts another one first, and from a heir of that other one. -/
def crossing : List ModuleFacts :=
  [⟨"m", "m.py", [], [heir "A" [] ["x"], heir "B" [] ["x"], heir "P" ["A", "B"] [], heir "Q" ["A"] [],
    heir "T" ["P", "Q"] []]⟩]

def lowest : Descriptor := .declared 4 (heir "T" ["P", "Q"] [])

/-- The property is not taken from the first class in the linearization that declares its name. -/
theorem not_takenFrom_c3_crossing : InUse crossing (loaded crossing) ∧ Registered crossing lowest ∧
    c3 (baseNamesFrom crossing lowest) 4 lowest.key = some ["m.T", "m.P", "m.Q", "m.A", "m.B"] ∧
    ∃ q ∈ (view.allProperties lowest (loaded crossing)).1,
      ¬ TakenFrom lowest (view.allProperties lowest (loaded crossing)).2 ["m.T", "m.P", "m.Q", "m.A", "m.B"] q := by
  refine ⟨InUse.loaded (loaded crossing).failures, ⟨4, heir "T" ["P", "Q"] [], rfl, rfl⟩, by decide, ?_⟩
  have hall : (view.allProperties lowest (loaded crossing)).1.map (fun q => (q.name, q.type.key)) = [("x", "m.B")] := by
    decide
  have hfirst : ["m.T", "m.P", "m.Q", "m.A", "m.B"].find?
      (declaresName lowest (view.allProperties lowest (loaded crossing)).2 "x") = some "m.A" := by decide
  have htype : ∀ u ∈ lowest :: (view.ancestors lowest (view.allProperties lowest (loaded crossing)).2).1,
      u.key = "m.A" → (lastNamed (view.properties u (view.allProperties lowest (loaded crossing)).2).1 "x").map
        (fun q => q.type.key) = some "m.A" := by decide
  obtain ⟨q, rest, hq, hname, _⟩ := List.map_eq_cons_iff.mp hall
  rw [Prod.mk.injEq] at hname
  refine ⟨q, by rw [hq]; exact List.mem_cons_self .., ?_⟩
  rintro ⟨u, hu, hfind, hlast⟩
  rw [hname.1, hfirst, Option.some_inj] at hfind
  have hkey := htype u hu hfind.symm
  rw [hname.1] at hlast
  rw [hlast, Option.map_some, hname.2, Option.some_inj] at hkey
  exact absurd hkey (by decide)

end ModelReach.Catalogue
