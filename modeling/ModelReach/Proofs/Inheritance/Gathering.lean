import ModelReach.Proofs.Inheritance.Ways

/-! All properties of a class, for any graph of bases: the names that it or a class above it declares, each once, with
the last property that one of these classes declares under the name. -/
namespace ModelReach
set_option autoImplicit false

/-! ## The class that a name is taken from -/

theorem lastNamed_flatMap {α : Type} {f : α → List Property} {l : List α} {name : String} {q : Property}
    (h : lastNamed (l.flatMap f) name = some q) :
    ∃ a x b, l = a ++ x :: b ∧ lastNamed (f x) name = some q ∧ ∀ y ∈ b, name ∉ namesOfProperties (f y) := by
  induction l with
  | nil => exact nomatch h
  | cons x l ih =>
    rw [List.flatMap_cons, lastNamed_append] at h
    cases hl : lastNamed (l.flatMap f) name with
    | some q' =>
      rw [hl, Option.some_or, Option.some_inj] at h
      obtain ⟨a, y, b, rfl, hy, hb⟩ := ih (h ▸ hl)
      exact ⟨x :: a, y, b, rfl, hy, hb⟩
    | none =>
      rw [hl, Option.none_or] at h
      refine ⟨[], x, l, rfl, h, fun y hy hname => lastNamed_eq_none.mp hl ?_⟩
      obtain ⟨p, hp, hname⟩ := List.mem_map.mp hname
      exact List.mem_map.mpr ⟨p, List.mem_flatMap.mpr ⟨y, hy, hp⟩, hname⟩

theorem mem_names_flatMap {α : Type} {f : α → List Property} {l : List α} {name : String} :
    name ∈ namesOfProperties (l.flatMap f) ↔ ∃ x ∈ l, name ∈ namesOfProperties (f x) := by
  rw [namesOfProperties, List.map_flatMap, List.mem_flatMap]
  rfl

namespace Catalogue

/-! ## What all properties are -/

/-- The declared classes among the ancestors of a class. -/
def classesAbove (t : Descriptor) (c : Catalogue) : List Descriptor :=
  (view.ancestors t c).1.filter Descriptor.isDeclared

/-- One key is that of a class or of one of its ancestors, and the other that of a base of it. -/
def BaseEdge (t : Descriptor) (c : Catalogue) (k m : String) : Prop :=
  ∃ u ∈ t :: (view.ancestors t c).1, u.key = k ∧ m ∈ (view.bases u c).1.map Descriptor.key

/-- The properties are all those of a class, as the catalogue tells that is left. -/
structure Gathers (t : Descriptor) (c : Catalogue) (all : List Property) : Prop where
  /-- No name is repeated. -/
  distinct : (namesOfProperties all).Nodup
  /-- The names are those that the class or a class above it declares. -/
  names : ∀ name, name ∈ namesOfProperties all ↔
    ∃ u ∈ t :: classesAbove t c, name ∈ namesOfProperties (view.properties u c).1
  /-- What the class declares itself it has, the last property of each name. -/
  own : ∀ name q, lastNamed (view.properties t c).1 name = some q → q ∈ all
  /-- Inherited names come first. -/
  inheritedFirst : ∃ inherited new, all = inherited ++ new ∧ ∀ name, name ∈ namesOfProperties inherited ↔
    ∃ u ∈ classesAbove t c, name ∈ namesOfProperties (view.properties u c).1
  /-- Each property is the last one that some class declares under its name; without cycles, no class below that one
  declares the name. -/
  chosen : ∀ q ∈ all, ∃ u ∈ t :: classesAbove t c, lastNamed (view.properties u c).1 q.name = some q ∧
    ((∀ k, ¬ Relation.TransGen (BaseEdge t c) k k) → ∀ w ∈ t :: (view.ancestors t c).1,
      (view.isStrictSubtype w u c).1 = true → q.name ∉ namesOfProperties (view.properties w c).1)

variable {loads : List ModuleFacts} {t : Descriptor}

theorem mem_cons_ancestors {c : Catalogue} {u : Descriptor} (hu : u ∈ t :: classesAbove t c) :
    u ∈ t :: (view.ancestors t c).1 := by
  have habove : classesAbove t c ⊆ (view.ancestors t c).1 := List.filter_sublist.subset
  exact List.cons_subset_cons t habove hu

theorem mem_cons_classesAbove_of_declares {c : Catalogue} {w : Descriptor} {name : String}
    (hw : w ∈ t :: (view.ancestors t c).1) (hname : name ∈ namesOfProperties (view.properties w c).1) :
    w ∈ t :: classesAbove t c := by
  refine (List.mem_cons.mp hw).elim (fun he => List.mem_cons.mpr (Or.inl he)) fun hw => ?_
  refine List.mem_cons_of_mem t (List.mem_filter.mpr ⟨hw, ?_⟩)
  cases w with
  | declared _ _ => rfl
  | leaf _ => exact absurd hname List.not_mem_nil
  | array _ _ _ => exact absurd hname List.not_mem_nil
  | generic _ _ _ => exact absurd hname List.not_mem_nil

/-! ## The order of classes -/

/-- The names of the classes from which a class has its properties, in the order in which these are merged. -/
def classOrder (loads : List ModuleFacts) (t : Descriptor) : List String :=
  openedFrom (classNamesFrom loads t) ((classesIn loads).length + 1) t.key

theorem length_classNames_le (loads : List ModuleFacts) : (classNames loads).length ≤ (classesIn loads).length + 1 := by
  rw [classNames, List.length_map]
  exact Nat.le_succ _

section Order
variable (ht : Registered loads t)
include ht

theorem nodup_classOrder : (classOrder loads t).Nodup :=
  nodup_openedFrom (within_classNames ht) (key_mem_classNames ht) (length_classNames_le loads)

theorem mem_classOrder {k : String} : k ∈ classOrder loads t ↔
    Reaches (baseNamesFrom loads t) t.key k ∧ (seenFrom loads t k).isSome = true := by
  rw [classOrder, mem_openedFrom (within_classNames ht) (key_mem_classNames ht) (length_classNames_le loads),
    reaches_classNames]

/-- The class itself comes last, after those above it. -/
theorem classOrder_eq_concat : ∃ above, classOrder loads t = above ++ [t.key] ∧
    ∀ k, k ∈ above ↔ k ∈ classOrder loads t ∧ k ≠ t.key := by
  obtain ⟨above, habove⟩ := openedFrom_eq_concat (classNamesFrom loads t) (classesIn loads).length t.key
  have hnodup := nodup_classOrder ht
  rw [classOrder, habove] at hnodup
  refine ⟨above, habove, fun k => ?_⟩
  rw [classOrder, habove, List.mem_append, List.mem_singleton]
  constructor
  · intro hk
    exact ⟨Or.inl hk, fun he => List.disjoint_of_nodup_append hnodup hk (List.mem_singleton.mpr he)⟩
  · exact fun hk => hk.1.resolve_right hk.2

section Sound
variable {c : Catalogue} (hc : Sound loads c)
include hc

theorem mem_classesAbove {u : Descriptor} : u ∈ classesAbove t c ↔
    u.key ≠ t.key ∧ seenFrom loads t u.key = some u ∧ u.key ∈ classOrder loads t := by
  rw [classesAbove, List.mem_filter, mem_view_ancestors_iff hc ht, mem_classOrder ht]
  constructor
  · rintro ⟨hne, hu, hreaches⟩
    exact ⟨hne, hu, hreaches, by rw [hu]; rfl⟩
  · rintro ⟨hne, hu, hreaches, _⟩
    exact ⟨hne, hu, hreaches⟩

/-- The classes from which a class has its properties are those that the names in order stand for. -/
theorem mem_cons_classesAbove {u : Descriptor} : u ∈ t :: classesAbove t c ↔
    seenFrom loads t u.key = some u ∧ u.key ∈ classOrder loads t := by
  rw [List.mem_cons, mem_classesAbove ht hc]
  constructor
  · rintro (rfl | ⟨_, h⟩)
    · refine ⟨seenFrom_self, (mem_classOrder ht).mpr ⟨Relation.ReflTransGen.refl, ?_⟩⟩
      rw [seenFrom_self]
      rfl
    · exact h
  · rintro ⟨hu, horder⟩
    by_cases hk : u.key = t.key
    · rw [hk, seenFrom_self, Option.some_inj] at hu
      exact Or.inl hu.symm
    · exact Or.inr ⟨hk, hu, horder⟩

theorem exists_classesAbove {P : Descriptor → Prop} {above : List String}
    (habove : ∀ k, k ∈ above ↔ k ∈ classOrder loads t ∧ k ≠ t.key) :
    (∃ u ∈ classesAbove t c, P u) ↔ ∃ k ∈ above, ∃ u ∈ seenFrom loads t k, P u := by
  constructor
  · rintro ⟨u, hu, hp⟩
    obtain ⟨hne, hstands, horder⟩ := (mem_classesAbove ht hc).mp hu
    exact ⟨u.key, (habove _).mpr ⟨horder, hne⟩, u, hstands, hp⟩
  · rintro ⟨k, hk, u, hu, hp⟩
    obtain rfl := key_of_seenFrom hu
    obtain ⟨horder, hne⟩ := (habove _).mp hk
    exact ⟨u, (mem_classesAbove ht hc).mpr ⟨hne, hu, horder⟩, hp⟩

theorem exists_cons_classesAbove {P : Descriptor → Prop} :
    (∃ u ∈ t :: classesAbove t c, P u) ↔ ∃ k ∈ classOrder loads t, ∃ u ∈ seenFrom loads t k, P u := by
  constructor
  · rintro ⟨u, hu, hp⟩
    obtain ⟨hstands, horder⟩ := (mem_cons_classesAbove ht hc).mp hu
    exact ⟨u.key, horder, u, hstands, hp⟩
  · rintro ⟨k, hk, u, hu, hp⟩
    obtain rfl := key_of_seenFrom hu
    exact ⟨u, (mem_cons_classesAbove ht hc).mpr ⟨hu, hk⟩, hp⟩

/-! ## Cycles -/

/-- Steps up from the class and its ancestors are edges. -/
theorem baseEdge_of_up {k m : String} (hk : Reaches (baseNamesFrom loads t) t.key k) (h : Up loads t k m) :
    BaseEdge t c k m := by
  obtain ⟨u, hu⟩ := Option.isSome_iff_exists.mp (isSome_of_up h)
  obtain rfl := key_of_seenFrom hu
  have hmem := (mem_cons_classesAbove ht hc).mpr ⟨hu, (mem_classOrder ht).mpr ⟨hk, isSome_of_up h⟩⟩
  refine ⟨u, mem_cons_ancestors hmem, rfl, ?_⟩
  obtain ⟨n, facts, hf, rfl⟩ := registered_of_seenFrom ht hu
  rw [map_key_view_bases hc ⟨n, facts, hf, rfl⟩]
  rw [Up, baseNamesFrom, hu] at h
  exact h

theorem transGen_baseEdge {k m : String} (hk : Reaches (baseNamesFrom loads t) t.key k)
    (h : Relation.TransGen (Up loads t) k m) : Relation.TransGen (BaseEdge t c) k m := by
  induction h with
  | single h => exact Relation.TransGen.single (baseEdge_of_up ht hc hk h)
  | tail hm h ih => exact ih.tail (baseEdge_of_up ht hc (hk.trans hm.to_reflTransGen) h)

/-- Without cycles, a class comes in order after those above it. -/
theorem mem_before_of_isStrictSubtype (hacyclic : ∀ k, ¬ Relation.TransGen (BaseEdge t c) k k) {w u : Descriptor}
    {a b : List String} (hw : w ∈ t :: classesAbove t c) (hu : u ∈ t :: classesAbove t c)
    (h : (view.isStrictSubtype w u c).1 = true) (he : classOrder loads t = a ++ w.key :: b) : u.key ∈ a := by
  obtain ⟨hstands, horder⟩ := (mem_cons_classesAbove ht hc).mp hw
  obtain ⟨hustands, _⟩ := (mem_cons_classesAbove ht hc).mp hu
  have hreaches := ((mem_classOrder ht).mp horder).1
  have hregistered := registered_of_seenFrom ht hstands
  obtain ⟨n, facts, hf, rfl⟩ := hregistered
  have hup : Relation.TransGen (Up loads t) facts.qualifiedName u.key := by
    refine transGen_of_climbs hstands (fun hback => ?_) (climbs_of_isStrictSubtype hc ⟨n, facts, hf, rfl⟩ h)
    exact hacyclic _ (transGen_baseEdge ht hc hreaches (hback.trans_left hreaches))
  refine mem_before_of_mem_openedFrom (within_classNames ht) (key_mem_classNames ht) (length_classNames_le loads)
    (fun k hk hcycle => ?_) he (transGen_classNames hup (by rw [hustands]; rfl))
  refine hacyclic k (transGen_baseEdge ht hc (reaches_classNames.mp hk).1 ?_)
  exact Relation.TransGen.mono (fun _ _ h => (mem_classNamesFrom.mp h).1) _ _ hcycle

end Sound
end Order

/-! ## All properties -/

section AllProperties
variable (ht : Registered loads t)
include ht

/-- Once all properties of a class have been asked for, those of the classes above it have been, too. -/
theorem properties_of_asked {d : Catalogue} (hd : Asked loads (view.allProperties t) d) {k : String}
    (hk : k ∈ classOrder loads t) {u : Descriptor} (hu : seenFrom loads t k = some u) :
    (view.properties u d).1 = ownFrom loads t d.reading k := by
  have hsound : Sound loads d := by
    obtain ⟨_, _, hd⟩ := hd
    exact hd.sound
  have hdeclared : t.isDeclared = true := by
    obtain ⟨n, facts, _, rfl⟩ := ht
    rfl
  have hanswers (n : Nat) : Answers loads (view.inherited (n + 1) [] t >>= fun all => pure all.1)
      (fun c => c.reading.inherited (n + 1) [] t >>= fun all => pure all.1) :=
    (answers_inherited _ _ ht.known).bind fun _ _ => Answers.pure _
  unfold View.allProperties at hd
  rw [if_pos hdeclared] at hd
  have hrounds := (hd.second answers_classBound fun e _ => ⟨_, hanswers e.settled.length⟩).first
    (answers_inherited _ _ ht.known) fun _ _ => ⟨_, Answers.pure _⟩
  rw [show d.reading.classBound.run = (classesIn loads).length from hsound.size] at hrounds
  have hasked := askedAll_inherited ht hsound _ Entering.init hrounds k hk u hu
  rw [hasked.answer (answers_properties (registered_of_seenFrom ht hu).known), ownFrom, hu]
  rfl

theorem mem_names_ownFrom {d : Catalogue} (hasked : Asked loads (view.allProperties t) d) {k : String}
    (hk : k ∈ classOrder loads t) (name : String) : name ∈ namesOfProperties (ownFrom loads t d.reading k) ↔
      ∃ u ∈ seenFrom loads t k, name ∈ namesOfProperties (view.properties u d).1 := by
  obtain ⟨u, hu⟩ := Option.isSome_iff_exists.mp ((mem_classOrder ht).mp hk).2
  rw [← properties_of_asked ht hasked hk hu]
  constructor
  · exact fun h => ⟨u, hu, h⟩
  · rintro ⟨u', hu', h⟩
    rw [hu, Option.mem_some_iff] at hu'
    rw [hu']
    exact h

/-- A property is the last of its name that some class declares, and no class later in order declares the name. -/
theorem exists_chosen {d : Catalogue} (hd : Sound loads d) (hasked : Asked loads (view.allProperties t) d)
    {q : Property} (hq : q ∈ (d.reading.allProperties t).run) : ∃ a u b, classOrder loads t = a ++ u.key :: b ∧
      u ∈ t :: classesAbove t d ∧ lastNamed (view.properties u d).1 q.name = some q ∧
      ∀ k ∈ b, q.name ∉ namesOfProperties (ownFrom loads t d.reading k) := by
  rw [allProperties_reading hd ht] at hq
  obtain ⟨a, k, b, he, hlast, hafter⟩ := lastNamed_flatMap (mem_mergeProperties_iff.mp hq)
  change classOrder loads t = _ at he
  have hk : k ∈ classOrder loads t := by
    rw [he]
    exact List.mem_append_right a (List.mem_cons_self ..)
  obtain ⟨u, hu⟩ := Option.isSome_iff_exists.mp ((mem_classOrder ht).mp hk).2
  obtain rfl := key_of_seenFrom hu
  have hown := properties_of_asked ht hasked hk hu
  exact ⟨a, u, b, he, (mem_cons_classesAbove ht hd).mpr ⟨hu, hk⟩, by rw [hown]; exact hlast, hafter⟩

/-- Without cycles, no class below one declares a name that no class later in order declares. -/
theorem notMem_names_of_later {d : Catalogue} (hd : Sound loads d) (hasked : Asked loads (view.allProperties t) d)
    (hacyclic : ∀ k, ¬ Relation.TransGen (BaseEdge t d) k k) {a b : List String} {u w : Descriptor} {name : String}
    (he : classOrder loads t = a ++ u.key :: b) (hu : u ∈ t :: classesAbove t d)
    (hlater : ∀ k ∈ b, name ∉ namesOfProperties (ownFrom loads t d.reading k))
    (hw : w ∈ t :: (view.ancestors t d).1) (hbelow : (view.isStrictSubtype w u d).1 = true) :
    name ∉ namesOfProperties (view.properties w d).1 := by
  intro hname
  have hw : w ∈ t :: classesAbove t d := mem_cons_classesAbove_of_declares hw hname
  obtain ⟨hstands, horder⟩ := (mem_cons_classesAbove ht hd).mp hw
  have hown := (mem_names_ownFrom ht hasked horder name).mpr ⟨w, hstands, hname⟩
  have hnodup := nodup_classOrder ht
  rw [he] at horder hnodup
  -- the class below comes later in order, where the name is not declared, and yet earlier
  rcases List.mem_append.mp horder with horder | horder
  · obtain ⟨a₁, a₂, rfl⟩ := List.append_of_mem horder
    rw [List.append_assoc, List.cons_append] at he
    have hbefore := mem_before_of_isStrictSubtype ht hd hacyclic hw hu hbelow he
    exact List.disjoint_of_nodup_append hnodup (List.mem_append_left _ hbefore) (List.mem_cons_self ..)
  · rcases List.mem_cons.mp horder with hsame | horder
    · rw [← hsame] at he
      have hbefore := mem_before_of_isStrictSubtype ht hd hacyclic hw hu hbelow he
      exact List.disjoint_of_nodup_append hnodup hbefore (List.mem_cons_self ..)
    · exact hlater w.key horder hown

theorem gathers_of_asked {d : Catalogue} (hd : Sound loads d) (hasked : Asked loads (view.allProperties t) d) :
    Gathers t d (d.reading.allProperties t).run := by
  obtain ⟨above, horder, habove⟩ := classOrder_eq_concat ht
  have hself : t.key ∈ classOrder loads t := by
    rw [horder]
    exact List.mem_append_right above (List.mem_singleton_self _)
  have hstands : seenFrom loads t t.key = some t := seenFrom_self
  have hown := properties_of_asked ht hasked hself hstands
  have hmerged : (d.reading.allProperties t).run =
      mergeProperties [] ((classOrder loads t).flatMap (ownFrom loads t d.reading)) := allProperties_reading hd ht
  refine
    { distinct := by rw [hmerged]; exact nodup_merged _
      names := fun name => ?_
      own := fun name q hq => ?_
      inheritedFirst := ?_
      chosen := fun q hq => ?_ }
  · rw [hmerged, mem_names_merged, mem_names_flatMap, exists_cons_classesAbove ht hd]
    exact exists_congr fun k => and_congr_right fun hk => mem_names_ownFrom ht hasked hk name
  · rw [hmerged, mem_mergeProperties_iff, name_of_lastNamed hq, horder, List.flatMap_append, List.flatMap_singleton,
      lastNamed_append, ← hown, hq, Option.some_or]
  · rw [hmerged, horder, List.flatMap_append, mergeProperties_append]
    obtain ⟨inherited, new, he, hinherited, _⟩ := mergeProperties_split
      (mergeProperties [] (above.flatMap (ownFrom loads t d.reading)))
      ([t.key].flatMap (ownFrom loads t d.reading))
    refine ⟨inherited, new, he, fun name => ?_⟩
    rw [hinherited, mem_names_merged, mem_names_flatMap, exists_classesAbove ht hd habove]
    exact exists_congr fun k => and_congr_right fun hk => mem_names_ownFrom ht hasked ((habove k).mp hk).1 name
  · obtain ⟨a, u, b, he, hmem, hlast, hafter⟩ := exists_chosen ht hd hasked hq
    exact ⟨u, hmem, hlast, fun hacyclic w hw hbelow =>
      notMem_names_of_later ht hd hasked hacyclic he hmem hafter hw hbelow⟩

/-- The rounds of a question about all properties suffice, and the answer is what the class and those above it
declare, by name, whatever cycles there are. -/
theorem gathers_allProperties {c : Catalogue} (hc : InUse loads c) :
    (∀ n, c.settled.length + 1 ≤ n → view.inherited n [] t c = view.inherited (c.settled.length + 1) [] t c) ∧
    Gathers t (view.allProperties t c).2 (view.allProperties t c).1 := by
  have hanswers := answers_allProperties ht.known
  refine ⟨fun n hn => inherited_rounds ht hc.sound hn, ?_⟩
  rw [← hanswers.shown hc.sound]
  exact gathers_of_asked ht (hanswers.sound hc.sound) (hanswers.asked hc.sound)

end AllProperties

/-- A class with some bases, and properties of some names. -/
def heir (name : String) (bases names : List String) : ClassFacts :=
  ⟨name, "m", bases.map fun base => .named ("m." ++ base), [], none,
    names.map fun property => ⟨property, .named ("m." ++ name), false, []⟩, [], []⟩

/-- A module in which two classes inherit from one, and another class from both. -/
def diamond : List ModuleFacts :=
  [⟨"m", "m.py", [], [heir "A" [] ["x", "y"], heir "B" ["A"] [], heir "C" ["A"] ["x"], heir "D" ["B", "C"] ["z"]]⟩]

def bottom : Descriptor := .declared 3 (heir "D" ["B", "C"] ["z"])

theorem gathers_allProperties_diamond :
    (view.allProperties bottom (loaded diamond)).1.map (fun q => (q.name, q.type.key)) =
      [("x", "m.C"), ("y", "m.A"), ("z", "m.D")] ∧
    Gathers bottom (view.allProperties bottom (loaded diamond)).2 (view.allProperties bottom (loaded diamond)).1 := by
  have hc : InUse diamond (loaded diamond) := InUse.loaded (loaded diamond).failures
  have ht : Registered diamond bottom := ⟨3, heir "D" ["B", "C"] ["z"], rfl, rfl⟩
  exact ⟨by decide, (gathers_allProperties ht hc).2⟩

end Catalogue
end ModelReach
